/-
# `Trace.PreorderExact` — a trace, stored and read back as one tree

The nodes of a stored trace pass the structural checks of
`_revalidate_capture` exactly when they are the preorder listing of one
rooted tree, with the parents and the depths of that tree
(`structure_iff`).  The walk that made them out of the provider's answer
lists the provider's tree in that order (`persistedWalk_lists`).
-/
import TonTracker.Trace.Shape
import TonTracker.Adapters.TonapiTraces

namespace TonTracker

open ExceptFold (check present check_eq_ok present_eq_ok bind_eq_ok)
open Preorder (Forest Place extend)

/-! ## The structural checks -/

/-- The checks of a node against the nodes before it; what remains of
`revalidateNode` is about its own fields and its messages. -/
def structureNode (walk : TraceWalk) (node : TraceNodeRow) :
    Except TraceRaised (Option Nat × List TraceNodeRow) := do
  check (node.preorderIndex = walk.seen.length ∧ node.id ∉ walk.seen.map (·.id))
    (.evidenceConflict "Stored trace evidence preorder is incoherent.")
  check (node.transactionHash ∉ walk.seen.map (·.transactionHash))
    (.evidenceConflict "Stored trace evidence reuses a transaction hash.")
  check ((node.accountCanonical, node.logicalTime) ∉
      walk.seen.map fun node => (node.accountCanonical, node.logicalTime))
    (.evidenceConflict "Stored trace evidence reuses a transaction coordinate.")
  check (0 ≤ node.depth ∧ node.depth ≤ 32)
    (.evidenceConflict "Stored trace depth exceeds its contract.")
  linkNode walk node

/-- One round of the structural walk. -/
def structureRound (walk : TraceWalk) (node : TraceNodeRow) : Except TraceRaised TraceWalk := do
  let (_, openPath) ← structureNode walk node
  return { seen := walk.seen ++ [node], openPath := openPath, nodes := [] }

/-- The structural part of `_revalidate_capture`. -/
def revalidateStructure (nodes : List TraceNodeRow) : Except TraceRaised TraceWalk := do
  check (1 ≤ nodes.length ∧ nodes.length ≤ 256)
    (.evidenceConflict "Stored trace evidence has an invalid node count.")
  nodes.foldlM structureRound { seen := [], openPath := [], nodes := [] }

/-! ## Coherent rows -/

/-- What is asked of the rows besides their links: indices that count them,
distinct ids, hashes and coordinates, and depths within the contract. -/
structure TraceCoherent (nodes : List TraceNodeRow) : Prop where
  indices : nodes.map (·.preorderIndex) = (List.range nodes.length).map Int.ofNat
  ids : (nodes.map (·.id)).Nodup
  hashes : (nodes.map (·.transactionHash)).Nodup
  coordinates : (nodes.map fun node => (node.accountCanonical, node.logicalTime)).Nodup
  depths : ∀ node ∈ nodes, 0 ≤ node.depth ∧ node.depth ≤ 32

theorem nodup_snoc {α : Type} {l : List α} {a : α} : (l ++ [a]).Nodup ↔ l.Nodup ∧ a ∉ l := by
  rw [List.nodup_append_comm, List.singleton_append, List.nodup_cons, and_comm]

theorem traceCoherent_snoc {seen : List TraceNodeRow} {node : TraceNodeRow} :
    TraceCoherent (seen ++ [node]) ↔ TraceCoherent seen ∧ node.preorderIndex = seen.length ∧
      node.id ∉ seen.map (·.id) ∧ node.transactionHash ∉ seen.map (·.transactionHash) ∧
      (node.accountCanonical, node.logicalTime) ∉
        (seen.map fun node => (node.accountCanonical, node.logicalTime)) ∧
      0 ≤ node.depth ∧ node.depth ≤ 32 := by
  have hindices : (seen ++ [node]).map (·.preorderIndex) =
      (List.range (seen ++ [node]).length).map Int.ofNat ↔
        seen.map (·.preorderIndex) = (List.range seen.length).map Int.ofNat ∧
          node.preorderIndex = seen.length := by
    rw [List.map_append, List.length_append, List.length_singleton, List.range_succ,
      List.map_append]
    constructor
    · intro h
      obtain ⟨hseen, hnode⟩ := List.append_inj' h rfl
      exact ⟨hseen, by simpa using hnode⟩
    · rintro ⟨hseen, hnode⟩
      rw [hseen, List.map_singleton, List.map_singleton, hnode]
      rfl
  constructor
  · rintro ⟨hi, ids, hashes, coordinates, depths⟩
    rw [List.map_append, List.map_singleton, nodup_snoc] at ids hashes coordinates
    rw [List.forall_mem_append, List.forall_mem_singleton] at depths
    obtain ⟨hi, hindex⟩ := hindices.mp hi
    exact ⟨⟨hi, ids.1, hashes.1, coordinates.1, depths.1⟩, hindex, ids.2, hashes.2, coordinates.2,
      depths.2⟩
  · rintro ⟨h, hindex, hid, hhash, hcoordinate, hdepth⟩
    refine ⟨hindices.mpr ⟨h.indices, hindex⟩, ?_, ?_, ?_, ?_⟩
    · rw [List.map_append, List.map_singleton, nodup_snoc]
      exact ⟨h.ids, hid⟩
    · rw [List.map_append, List.map_singleton, nodup_snoc]
      exact ⟨h.hashes, hhash⟩
    · rw [List.map_append, List.map_singleton, nodup_snoc]
      exact ⟨h.coordinates, hcoordinate⟩
    · rw [List.forall_mem_append, List.forall_mem_singleton]
      exact ⟨h.depths, hdepth⟩

/-! ## The open path -/

/-- A row under the words of the preorder reader. -/
abbrev extendPath : List TraceNodeRow → TraceNodeRow → Option (List TraceNodeRow) :=
  extend (·.id) (·.parentNodeId) (·.depth.toNat)

theorem extendPath_eq (path : List TraceNodeRow) (node : TraceNodeRow) :
    extendPath path node = if path = [] then
        if node.parentNodeId = none ∧ node.depth.toNat = 0 then some [node] else none
      else if 1 ≤ node.depth.toNat ∧ node.depth.toNat ≤ path.length ∧
          (path[node.depth.toNat - 1]?).map (·.id) = node.parentNodeId then
        some (path.take node.depth.toNat ++ [node])
      else none := rfl

/-- The open path runs through the rows, one a depth. -/
structure PathOf (seen path : List TraceNodeRow) : Prop where
  members : ∀ node ∈ path, node ∈ seen
  depths : ∀ (d : Nat) (node : TraceNodeRow), path[d]? = some node → node.depth = d
  empty : path = [] ↔ seen = []

theorem PathOf.extend {seen path path' : List TraceNodeRow} {node : TraceNodeRow}
    (h : PathOf seen path) (hdepth : 0 ≤ node.depth) (hpath : extendPath path node = some path') :
    PathOf (seen ++ [node]) path' := by
  rw [extendPath_eq] at hpath
  split at hpath
  · obtain ⟨⟨-, hzero⟩, heq⟩ := Option.ite_none_right_eq_some.mp hpath
    cases heq
    refine ⟨?_, ?_, by simp⟩
    · intro other hother
      exact List.mem_append_right _ hother
    · intro d other hd
      cases d with
      | zero =>
          cases hd
          omega
      | succ d => cases hd
  · obtain ⟨⟨hpos, hle, -⟩, heq⟩ := Option.ite_none_right_eq_some.mp hpath
    cases heq
    have hlength : (path.take node.depth.toNat).length = node.depth.toNat :=
      List.length_take_of_le hle
    refine ⟨?_, ?_, by simp⟩
    · intro other hother
      rcases List.mem_append.mp hother with hother | hother
      · exact List.mem_append_left _ (h.members other (List.mem_of_mem_take hother))
      · exact List.mem_append_right _ hother
    · intro d other hd
      rcases Nat.lt_trichotomy d node.depth.toNat with hlt | rfl | hgt
      · rw [List.getElem?_append_left (by rwa [hlength]), List.getElem?_take_of_lt hlt] at hd
        exact h.depths d other hd
      · rw [List.getElem?_append_right (Nat.le_of_eq hlength), hlength, Nat.sub_self] at hd
        cases hd
        omega
      · rw [List.getElem?_eq_none (by rw [List.length_append, hlength]; exact hgt)] at hd
        cases hd

/-- The link of a node is the step of the reader. -/
theorem linkNode_iff {walk : TraceWalk} {node : TraceNodeRow} {path' : List TraceNodeRow}
    (hpath : PathOf walk.seen walk.openPath) (ids : (walk.seen.map (·.id)).Nodup)
    (hdepth : 0 ≤ node.depth) :
    (∃ index, linkNode walk node = .ok (index, path')) ↔
      extendPath walk.openPath node = some path' := by
  unfold linkNode
  rw [extendPath_eq]
  by_cases hseen : walk.seen = []
  · rw [if_pos hseen, if_pos (hpath.empty.mpr hseen), Option.ite_none_right_eq_some]
    constructor
    · rintro ⟨index, h⟩
      obtain ⟨_, hroot, h⟩ := bind_eq_ok.mp h
      cases h
      obtain ⟨hparent, hzero⟩ := check_eq_ok.mp hroot
      exact ⟨⟨hparent, by rw [hzero]; rfl⟩, rfl⟩
    · rintro ⟨⟨hparent, hzero⟩, heq⟩
      cases heq
      exact ⟨none, bind_eq_ok.mpr ⟨(), check_eq_ok.mpr ⟨hparent, by omega⟩, rfl⟩⟩
  · rw [if_neg hseen, if_neg fun h => hseen (hpath.empty.mp h), Option.ite_none_right_eq_some]
    have hindex : (node.depth - 1).toNat = node.depth.toNat - 1 := by omega
    constructor
    · rintro ⟨index, h⟩
      obtain ⟨found, -, h⟩ := bind_eq_ok.mp h
      obtain ⟨_, -, h⟩ := bind_eq_ok.mp h
      obtain ⟨_, htraversal, h⟩ := bind_eq_ok.mp h
      cases h
      obtain ⟨hpos, hle, hid⟩ := check_eq_ok.mp htraversal
      rw [hindex] at hid
      exact ⟨⟨by omega, by omega, hid⟩, rfl⟩
    · rintro ⟨⟨hpos, hle, hid⟩, heq⟩
      cases heq
      -- the parent at the end of the cut path is the row its id names
      have hlt : node.depth.toNat - 1 < walk.openPath.length := by omega
      have hget := List.getElem?_eq_getElem hlt
      generalize walk.openPath[node.depth.toNat - 1] = parent at hget
      have hmem : parent ∈ walk.seen := hpath.members parent (List.mem_of_getElem? hget)
      have hparent : node.parentNodeId = some parent.id := by
        rw [← hid, hget]
        rfl
      have hexists : (walk.seen.findIdx? (·.id = parent.id)).isSome = true := by
        rw [List.findIdx?_isSome, List.any_eq_true]
        exact ⟨parent, hmem, decide_eq_true rfl⟩
      obtain ⟨index, hfound⟩ := Option.isSome_iff_exists.mp hexists
      obtain ⟨hin, hsame, -⟩ := List.findIdx?_eq_some_iff_getElem.mp hfound
      have hrow : walk.seen[index] = parent :=
        List.inj_on_of_nodup_map ids (List.getElem_mem hin) hmem (of_decide_eq_true hsame)
      refine ⟨some index, bind_eq_ok.mpr ⟨index, ?_, bind_eq_ok.mpr ⟨(), ?_, bind_eq_ok.mpr
        ⟨(), ?_, rfl⟩⟩⟩⟩
      · rw [present_eq_ok]
        unfold parentIndex
        rw [hparent]
        exact hfound
      · rw [check_eq_ok, List.getElem?_eq_getElem hin, hrow, Option.any_some, decide_eq_true_iff,
          hpath.depths _ _ hget]
        omega
      · rw [check_eq_ok, hindex]
        exact ⟨by omega, by omega, hid⟩

theorem pathOf_of_accepts {nodes path : List TraceNodeRow}
    (hdepths : ∀ node ∈ nodes, 0 ≤ node.depth) (h : nodes.foldlM extendPath [] = some path) :
    PathOf nodes path := by
  induction nodes using List.reverseRecOn generalizing path with
  | nil =>
      cases h
      refine ⟨fun _ h => (nomatch h), fun d node h => ?_, Iff.rfl⟩
      simp only [List.getElem?_nil, reduceCtorEq] at h
  | append_singleton nodes node ih =>
      rw [List.foldlM_append] at h
      obtain ⟨before, hbefore, h⟩ := Option.bind_eq_some_iff.mp h
      rw [List.foldlM_cons] at h
      obtain ⟨after, hafter, h⟩ := Option.bind_eq_some_iff.mp h
      cases h
      rw [List.forall_mem_append, List.forall_mem_singleton] at hdepths
      exact (ih hdepths.1 hbefore).extend hdepths.2 hafter

/-- A node passes the structural checks. -/
theorem structureNode_iff {walk : TraceWalk} {node : TraceNodeRow} {path' : List TraceNodeRow}
    (coherent : TraceCoherent walk.seen) (hpath : PathOf walk.seen walk.openPath) :
    (∃ index, structureNode walk node = .ok (index, path')) ↔
      TraceCoherent (walk.seen ++ [node]) ∧ extendPath walk.openPath node = some path' := by
  rw [traceCoherent_snoc]
  constructor
  · rintro ⟨index, h⟩
    obtain ⟨_, horder, h⟩ := bind_eq_ok.mp h
    obtain ⟨_, hhash, h⟩ := bind_eq_ok.mp h
    obtain ⟨_, hcoordinate, h⟩ := bind_eq_ok.mp h
    obtain ⟨_, hdepth, hlink⟩ := bind_eq_ok.mp h
    obtain ⟨horder, hid⟩ := check_eq_ok.mp horder
    have hdepth := check_eq_ok.mp hdepth
    exact ⟨⟨coherent, horder, hid, check_eq_ok.mp hhash, check_eq_ok.mp hcoordinate, hdepth⟩,
      (linkNode_iff hpath coherent.ids hdepth.1).mp ⟨index, hlink⟩⟩
  · rintro ⟨⟨-, horder, hid, hhash, hcoordinate, hdepth⟩, hextend⟩
    obtain ⟨index, hlink⟩ := (linkNode_iff hpath coherent.ids hdepth.1).mpr hextend
    exact ⟨index, bind_eq_ok.mpr ⟨(), check_eq_ok.mpr ⟨horder, hid⟩, bind_eq_ok.mpr ⟨(),
      check_eq_ok.mpr hhash, bind_eq_ok.mpr ⟨(), check_eq_ok.mpr hcoordinate, bind_eq_ok.mpr
        ⟨(), check_eq_ok.mpr hdepth, hlink⟩⟩⟩⟩⟩

/-- The walk over the rows is the reader on coherent rows. -/
theorem structure_walk {nodes : List TraceNodeRow} {walk : TraceWalk} :
    nodes.foldlM structureRound { seen := [], openPath := [], nodes := [] } = .ok walk ↔
      walk.seen = nodes ∧ walk.nodes = [] ∧ TraceCoherent nodes ∧
        nodes.foldlM extendPath [] = some walk.openPath := by
  induction nodes using List.reverseRecOn generalizing walk with
  | nil =>
      constructor
      · intro h
        cases h
        exact ⟨rfl, rfl, ⟨rfl, .nil, .nil, .nil, fun _ h => nomatch h⟩, rfl⟩
      · rintro ⟨hseen, hnodes, -, hpath⟩
        obtain ⟨seen, openPath, rows⟩ := walk
        cases hseen
        cases hnodes
        cases hpath
        rfl
  | append_singleton nodes node ih =>
      have pathOf : ∀ {path}, TraceCoherent nodes → nodes.foldlM extendPath [] = some path →
          PathOf nodes path := fun coherent =>
        pathOf_of_accepts fun other hother => (coherent.depths other hother).1
      rw [List.foldlM_append, bind_eq_ok, List.foldlM_append]
      constructor
      · rintro ⟨⟨seen, path, rows⟩, hbefore, h⟩
        obtain ⟨rfl, rfl, coherent, haccepts⟩ := ih.mp hbefore
        obtain ⟨after, hafter, h⟩ := bind_eq_ok.mp h
        cases h
        obtain ⟨⟨index, openPath⟩, hnode, hafter⟩ := bind_eq_ok.mp hafter
        cases hafter
        obtain ⟨hcoherent, hextend⟩ := (structureNode_iff coherent
          (pathOf coherent haccepts)).mp ⟨index, hnode⟩
        refine ⟨rfl, rfl, hcoherent, ?_⟩
        rw [haccepts]
        show ([node].foldlM extendPath path) = some openPath
        rw [List.foldlM_cons, hextend]
        rfl
      · rintro ⟨hseen, hnodes, hcoherent, haccepts⟩
        obtain ⟨path, hbefore, haccepts⟩ := Option.bind_eq_some_iff.mp haccepts
        rw [List.foldlM_cons] at haccepts
        obtain ⟨after, hextend, haccepts⟩ := Option.bind_eq_some_iff.mp haccepts
        cases haccepts
        have coherent := (traceCoherent_snoc.mp hcoherent).1
        obtain ⟨index, hnode⟩ := (@structureNode_iff ⟨nodes, path, []⟩ node _ coherent
          (pathOf coherent hbefore)).mpr ⟨hcoherent, hextend⟩
        refine ⟨⟨nodes, path, []⟩, ih.mpr ⟨rfl, rfl, coherent, hbefore⟩, ?_⟩
        obtain ⟨seen, openPath, rows⟩ := walk
        cases hseen
        cases hnodes
        exact bind_eq_ok.mpr ⟨_, bind_eq_ok.mpr ⟨_, hnode, rfl⟩, rfl⟩

/-! ## One tree -/

/-- The rows are the preorder listing of the tree, and their indices,
parents and depths are those of the tree. -/
def ListsTrace (tree : Preorder.Tree TraceNodeRow) (nodes : List TraceNodeRow) : Prop :=
  tree.listing.map (·.label) = nodes ∧ ∀ place ∈ tree.listing,
    place.label.preorderIndex = place.index ∧ place.label.depth = place.depth ∧
      place.label.parentNodeId = place.parent.map fun parent => parent.2.id

/-- The rows are within the bounds of a trace, and distinct. -/
structure TraceBounds (nodes : List TraceNodeRow) : Prop where
  count : 1 ≤ nodes.length ∧ nodes.length ≤ 256
  depths : ∀ node ∈ nodes, 0 ≤ node.depth ∧ node.depth ≤ 32
  ids : (nodes.map (·.id)).Nodup
  hashes : (nodes.map (·.transactionHash)).Nodup
  coordinates : (nodes.map fun node => (node.accountCanonical, node.logicalTime)).Nodup

theorem listsTrace_iff {tree : Preorder.Tree TraceNodeRow} {nodes : List TraceNodeRow}
    (hdepths : ∀ node ∈ nodes, 0 ≤ node.depth) : ListsTrace tree nodes ↔
      nodes.map (·.preorderIndex) = (List.range nodes.length).map Int.ofNat ∧
        Preorder.Lists (·.id) (·.parentNodeId) (·.depth.toNat) tree nodes := by
  have hindices : tree.listing.map (fun place => (place.index : Int)) =
      (List.range tree.listing.length).map Int.ofNat := by
    have := Forest.map_index_listing 0 none 0 tree.forest
    rw [← Forest.length_listing 0 none 0, ← List.range_eq_range'] at this
    show tree.listing.map (fun place => (place.index : Int)) =
      (List.range (Forest.listing 0 none 0 tree.forest).length).map Int.ofNat
    rw [← this, List.map_map]
    rfl
  unfold ListsTrace Preorder.Lists
  constructor
  · rintro ⟨rfl, hfits⟩
    refine ⟨?_, rfl, fun place hplace => ⟨?_, (hfits place hplace).2.2⟩⟩
    · rw [List.length_map, ← hindices, List.map_map]
      exact List.map_congr_left fun place hplace => (hfits place hplace).1
    · show place.label.depth.toNat = place.depth
      rw [(hfits place hplace).2.1, Int.toNat_natCast]
  · rintro ⟨hindex, rfl, hfits⟩
    rw [List.length_map, ← hindices, List.map_map] at hindex
    refine ⟨rfl, fun place hplace => ⟨List.map_inj_left.mp hindex place hplace, ?_,
      (hfits place hplace).2⟩⟩
    have hdepth : place.label.depth.toNat = place.depth := (hfits place hplace).1
    have := hdepths place.label (List.mem_map_of_mem hplace)
    omega

/-- The structural checks accept exactly the listings of one tree. -/
theorem structure_iff {nodes : List TraceNodeRow} :
    (∃ walk, revalidateStructure nodes = .ok walk) ↔
      TraceBounds nodes ∧ ∃! tree, ListsTrace tree nodes := by
  constructor
  · rintro ⟨walk, h⟩
    obtain ⟨_, hcount, h⟩ := bind_eq_ok.mp h
    obtain ⟨-, -, coherent, haccepts⟩ := structure_walk.mp h
    have hcount := check_eq_ok.mp hcount
    have hdepths : ∀ node ∈ nodes, 0 ≤ node.depth := fun node hnode =>
      (coherent.depths node hnode).1
    obtain ⟨tree, hlists, hunique⟩ := Preorder.accepts_iff.mp
      ⟨List.ne_nil_of_length_pos hcount.1, _, haccepts⟩
    refine ⟨⟨hcount, coherent.depths, coherent.ids, coherent.hashes, coherent.coordinates⟩, tree,
      (listsTrace_iff hdepths).mpr ⟨coherent.indices, hlists⟩, fun tree' h' => ?_⟩
    exact hunique tree' ((listsTrace_iff hdepths).mp h').2
  · rintro ⟨bounds, tree, hlists, -⟩
    obtain ⟨hindices, hlists⟩ := (listsTrace_iff fun node hnode =>
      (bounds.depths node hnode).1).mp hlists
    obtain ⟨-, path, haccepts⟩ := Preorder.accepts_iff.mpr
      ⟨tree, hlists, fun tree' h' => Preorder.Lists.unique h' hlists⟩
    exact ⟨⟨nodes, path, []⟩, bind_eq_ok.mpr ⟨(), check_eq_ok.mpr bounds.count,
      structure_walk.mpr ⟨rfl, rfl, ⟨hindices, bounds.ids, bounds.hashes, bounds.coordinates,
        bounds.depths⟩, haccepts⟩⟩⟩

/-! ## The walk over the provider's tree -/

open TonapiTraces (Graph Node EntryContext asObject persistedNode persistedWalk canonicalHash
  canonicalRawAccountAddress maxTransactionNodes previewNode)

/-- What a node of the graph says of a node of the provider. -/
def ReadsNode (fields : JsonFields) (node : Node) : Prop :=
  ∃ transaction, asObject (Json.get fields "transaction") = some transaction ∧
    canonicalHash (Json.get transaction "hash") = some node.transactionHash ∧
    canonicalRawAccountAddress (Json.get transaction "account") = some node.accountCanonical ∧
    strictLogicalTime (Json.get transaction "lt") = some node.logicalTime

/-- A node of the graph is at a place of the listing. -/
def NodeAt (node : Node) (place : Place JsonFields) : Prop :=
  node.preorderIndex = place.index ∧ node.parentPreorderIndex = place.parent.map (·.1) ∧
    node.depth = place.depth ∧ ReadsNode place.label node

section Persisted

variable {network rootHash : Text} {s s' : Graph} {fields : JsonFields}
  {context below : EntryContext}

/-- A node is added at the end, with the parent and the depth it was pushed
with, and its children are pushed below it. -/
theorem persistedNode_ok
    (h : persistedNode network rootHash s fields context = .ok (s', below)) :
    ∃ node, s'.nodes = s.nodes ++ [node] ∧ node.preorderIndex = s.nodes.length ∧
      node.parentPreorderIndex = context.parentPreorderIndex ∧ node.depth = context.depth ∧
      ReadsNode fields node ∧ below.parentPreorderIndex = some s.nodes.length ∧
      below.depth = context.depth + 1 := by
  obtain ⟨transaction, htransaction, h⟩ := bind_eq_ok.mp h
  obtain ⟨hash, hhash, h⟩ := bind_eq_ok.mp h
  obtain ⟨account, haccount, h⟩ := bind_eq_ok.mp h
  obtain ⟨logicalTime, htime, h⟩ := bind_eq_ok.mp h
  obtain ⟨⟨found, inMessage⟩, -, h⟩ := bind_eq_ok.mp h
  obtain ⟨values, -, h⟩ := bind_eq_ok.mp h
  obtain ⟨⟨found', outMessages⟩, -, h⟩ := bind_eq_ok.mp h
  obtain ⟨time, -, h⟩ := bind_eq_ok.mp h
  obtain ⟨success, -, h⟩ := bind_eq_ok.mp h
  obtain ⟨aborted, -, h⟩ := bind_eq_ok.mp h
  cases h
  exact ⟨_, rfl, rfl, rfl, rfl, ⟨transaction, require_eq_ok.mp htransaction,
    require_eq_ok.mp hhash, require_eq_ok.mp haccount, require_eq_ok.mp htime⟩, rfl, rfl⟩

/-- The recursion over some trees lists them after what was there. -/
theorem walk_lists {trees : Forest JsonFields} {parent : Option (Nat × JsonFields)}
    (hparent : context.parentPreorderIndex = parent.map (·.1))
    (h : trees.walk (persistedNode network rootHash) context s = .ok s') :
    ∃ added, s'.nodes = s.nodes ++ added ∧
      List.Forall₂ NodeAt added (trees.listing s.nodes.length parent context.depth) := by
  induction trees generalizing parent context s s' with
  | nil =>
      cases h
      exact ⟨[], (List.append_nil _).symm, .nil⟩
  | cons root children siblings ihc ihs =>
      rw [Forest.walk] at h
      split at h
      · cases h
      case h_2 next below hnode =>
        split at h
        · cases h
        case h_2 after hchildren =>
          obtain ⟨node, hnodes, hindex, hnodeParent, hdepth, hreads, hbelow, hdeeper⟩ :=
            persistedNode_ok hnode
          obtain ⟨inner, hinner, hlisted⟩ := @ihc _ _ _ (some (s.nodes.length, root)) hbelow
            hchildren
          obtain ⟨outer, houter, hrest⟩ := ihs hparent h
          have hlength : next.nodes.length = s.nodes.length + 1 := by
            rw [hnodes, List.length_append, List.length_singleton]
          have hsize : after.nodes.length = s.nodes.length + 1 + children.size := by
            rw [hinner, List.length_append, hlength, hlisted.length_eq, Forest.length_listing]
          rw [hlength, hdeeper] at hlisted
          rw [hsize] at hrest
          refine ⟨node :: (inner ++ outer), ?_, ?_⟩
          · rw [houter, hinner, hnodes]
            simp only [List.append_assoc, List.cons_append, List.nil_append]
          · exact .cons ⟨hindex, hnodeParent.trans hparent, hdepth, hreads⟩
              (List.rel_append hlisted hrest)

/-- The stack walks the tree as the recursion does. -/
theorem persistedWalk_eq {root : JsonFields} {tree : Preorder.Tree JsonFields}
    (unfolds : Preorder.Unfolds TonapiTraces.childrenOf [root] tree.forest)
    (hsize : tree.size ≤ maxTransactionNodes) : persistedWalk network rootHash root =
      tree.forest.walk (persistedNode network rootHash) ⟨none, none, 0⟩ Graph.start := by
  have round : ∀ (left : Nat) s node context children,
      TonapiTraces.childrenOf node = some children →
      TonapiTraces.persistedRound network rootHash s (node, context) =
        (persistedNode network rootHash s node context).map fun next =>
          (next.1, children.map (·, next.2)) := by
    intro left s node context children hchildren
    unfold TonapiTraces.persistedRound
    cases persistedNode network rootHash s node context with
    | error raised => rfl
    | ok next =>
        show (require (TonapiTraces.childrenOf node) _ >>= _) = _
        rw [hchildren]
        rfl
  have walk : Preorder.stackWalk _ TonapiTraces.tooManyNodes _ _ _ = _ :=
    Preorder.stackWalk_eq round unfolds hsize ⟨none, none, 0⟩ [] Graph.start
  rw [List.append_nil] at walk
  refine walk.trans ?_
  cases tree.forest.walk (persistedNode network rootHash) ⟨none, none, 0⟩ Graph.start with
  | error raised => rfl
  | ok s =>
      simp only
      cases maxTransactionNodes - tree.forest.size <;> rfl

/-- The nodes of the graph are the listing of the provider's tree. -/
theorem persistedWalk_lists {root : JsonFields} {tree : Preorder.Tree JsonFields}
    (unfolds : Preorder.Unfolds TonapiTraces.childrenOf [root] tree.forest)
    (hsize : tree.size ≤ maxTransactionNodes)
    (h : persistedWalk network rootHash root = .ok s) :
    List.Forall₂ NodeAt s.nodes tree.listing := by
  rw [persistedWalk_eq unfolds hsize] at h
  obtain ⟨added, hadded, hlisted⟩ := @walk_lists _ _ _ _ _ _ none rfl h
  rw [hadded]
  exact hlisted

end Persisted

/-! ## The bounds of the provider's tree -/

/-- The entries below one, as the preview pushes them. -/
def previewChildren (entry : JsonFields × Nat) : Option (List (JsonFields × Nat)) :=
  if entry.2 ≤ TonapiTraces.maxDepth then
    (TonapiTraces.childrenOf entry.1).map fun children => children.map (·, entry.2 + 1)
  else none

theorem previewNode_ok {requested : Text} {left : Nat} {s s' : TonapiTraces.Preview}
    {entry : JsonFields × Nat} {children : List (JsonFields × Nat)}
    (h : previewNode requested left s entry = .ok (s', children)) :
    previewChildren entry = some children := by
  obtain ⟨node, depth⟩ := entry
  obtain ⟨_, hdepth, h⟩ := bind_eq_ok.mp h
  obtain ⟨_, -, h⟩ := bind_eq_ok.mp h
  obtain ⟨emulated, -, h⟩ := bind_eq_ok.mp h
  obtain ⟨_, -, h⟩ := bind_eq_ok.mp h
  obtain ⟨interfaces, -, h⟩ := bind_eq_ok.mp h
  obtain ⟨_, -, h⟩ := bind_eq_ok.mp h
  obtain ⟨transaction, -, h⟩ := bind_eq_ok.mp h
  obtain ⟨hash, -, h⟩ := bind_eq_ok.mp h
  obtain ⟨_, -, h⟩ := bind_eq_ok.mp h
  obtain ⟨logicalTime, -, h⟩ := bind_eq_ok.mp h
  obtain ⟨account, -, h⟩ := bind_eq_ok.mp h
  obtain ⟨_, -, h⟩ := bind_eq_ok.mp h
  obtain ⟨time, -, h⟩ := bind_eq_ok.mp h
  obtain ⟨success, -, h⟩ := bind_eq_ok.mp h
  obtain ⟨aborted, -, h⟩ := bind_eq_ok.mp h
  obtain ⟨messages, -, h⟩ := bind_eq_ok.mp h
  obtain ⟨_, -, h⟩ := bind_eq_ok.mp h
  obtain ⟨internal, -, h⟩ := bind_eq_ok.mp h
  obtain ⟨values, hvalues, h⟩ := bind_eq_ok.mp h
  obtain ⟨_, -, h⟩ := bind_eq_ok.mp h
  obtain ⟨found, hfound, h⟩ := bind_eq_ok.mp h
  cases h
  unfold previewChildren
  rw [if_pos (check_eq_ok.mp hdepth)]
  have hchildren : TonapiTraces.childrenOf node = some found :=
    Option.bind_eq_some_iff.mpr ⟨values, require_eq_ok.mp hvalues, require_eq_ok.mp hfound⟩
  rw [hchildren]
  rfl

/-- Entries that unfold are nodes that unfold, within the depth. -/
theorem unfolds_entries {entries : Forest (JsonFields × Nat)} {nodes : List JsonFields} {d : Nat}
    (h : Preorder.Unfolds previewChildren (nodes.map (·, d)) entries) :
    ∃ trees, Preorder.Unfolds TonapiTraces.childrenOf nodes trees ∧ trees.size = entries.size ∧
      ∀ index parent, ∀ place ∈ trees.listing index parent d,
        place.depth ≤ TonapiTraces.maxDepth := by
  induction entries generalizing nodes d with
  | nil =>
      cases nodes with
      | nil => exact ⟨.nil, trivial, rfl, fun _ _ _ h => nomatch h⟩
      | cons node nodes => exact h.elim
  | cons root below siblings ihc ihs =>
      cases nodes with
      | nil => exact h.elim
      | cons node nodes =>
          obtain ⟨rfl, ⟨found, hfound, hbelow⟩, hsiblings⟩ := h
          obtain ⟨hdepth, hmap⟩ := Option.ite_none_right_eq_some.mp hfound
          obtain ⟨children, hchildren, rfl⟩ := Option.map_eq_some_iff.mp hmap
          obtain ⟨inner, hinner, hinnerSize, hinnerDepth⟩ := ihc hbelow
          obtain ⟨outer, houter, houterSize, houterDepth⟩ := ihs hsiblings
          refine ⟨.cons node inner outer, ⟨rfl, ⟨children, hchildren, hinner⟩, houter⟩, ?_, ?_⟩
          · rw [Forest.size, Forest.size, hinnerSize, houterSize]
          · intro index parent place hplace
            rw [Forest.listing, List.mem_cons, List.mem_append] at hplace
            rcases hplace with rfl | hplace | hplace
            · exact hdepth
            · exact hinnerDepth _ _ place hplace
            · exact houterDepth _ _ place hplace

/-- What the preview has passed is a tree within the bounds. -/
theorem preview_unfolds {payload : Json} {requested : Text}
    {preview : TonapiTraces.PreviewResponse}
    (h : TonapiTraces.normalizeTransactionTraceEvidenceResponse payload requested = .ok preview) :
    ∃ (root : JsonFields) (tree : Preorder.Tree JsonFields), asObject payload = some root ∧
      Preorder.Unfolds TonapiTraces.childrenOf [root] tree.forest ∧
      tree.size ≤ maxTransactionNodes ∧
        ∀ place ∈ tree.listing, place.depth ≤ TonapiTraces.maxDepth := by
  obtain ⟨_, -, h⟩ := bind_eq_ok.mp h
  obtain ⟨root, hroot, h⟩ := bind_eq_ok.mp h
  obtain ⟨s, hwalk, -⟩ := bind_eq_ok.mp h
  obtain ⟨entries, hentries, hsize⟩ := Preorder.unfolds_of_stackWalk
    (fun left s node s' children hnode => previewNode_ok hnode) hwalk
  obtain ⟨trees, htrees, hsizes, hdepths⟩ := @unfolds_entries entries [root] 0 hentries
  cases trees with
  | nil => exact htrees.elim
  | cons label children siblings =>
      obtain ⟨rfl, hchildren, hrest⟩ := htrees
      cases siblings with
      | cons label' children' siblings' => exact hrest.elim
      | nil =>
          exact ⟨root, ⟨root, children⟩, require_eq_ok.mp hroot, ⟨rfl, hchildren, trivial⟩,
            hsizes.trans_le hsize, hdepths 0 none⟩

/-! ## Main theorem -/

/-- A row that passes is one whose structure passes. -/
theorem structureRound_of_revalidateNode {capture : TraceCapture} {walk walk' : TraceWalk}
    {node : TraceNodeRow} (h : revalidateNode capture walk node = .ok walk')
    (rows : List TraceNode) : structureRound ⟨walk.seen, walk.openPath, rows⟩ node =
      .ok ⟨walk'.seen, walk'.openPath, []⟩ := by
  obtain ⟨_, horder, h⟩ := bind_eq_ok.mp h
  obtain ⟨_, -, h⟩ := bind_eq_ok.mp h
  obtain ⟨_, hhash, h⟩ := bind_eq_ok.mp h
  obtain ⟨_, hcoordinate, h⟩ := bind_eq_ok.mp h
  obtain ⟨_, hdepth, h⟩ := bind_eq_ok.mp h
  obtain ⟨link, hlink, h⟩ := bind_eq_ok.mp h
  obtain ⟨found, -, h⟩ := bind_eq_ok.mp h
  cases h
  exact bind_eq_ok.mpr ⟨link, bind_eq_ok.mpr ⟨_, horder, bind_eq_ok.mpr ⟨_, hhash,
    bind_eq_ok.mpr ⟨_, hcoordinate, bind_eq_ok.mpr ⟨_, hdepth, hlink⟩⟩⟩⟩, rfl⟩

/-- A capture that is accepted has passed the structural part. -/
theorem revalidateCapture_structure {derive : DeriveIdentity} {digest : TraceDocument → String}
    {transactions : List TraceTransaction} {capture : TraceCapture} {run : TraceRun}
    {selected : TraceTransaction} {persisted : PersistedTrace}
    (h : revalidateCapture derive digest transactions capture run selected = .ok persisted) :
    ∃ walk, revalidateStructure capture.sortedNodes = .ok walk := by
  obtain ⟨_, -, h⟩ := bind_eq_ok.mp h
  obtain ⟨_, -, h⟩ := bind_eq_ok.mp h
  obtain ⟨_, -, h⟩ := bind_eq_ok.mp h
  obtain ⟨_, hcount, h⟩ := bind_eq_ok.mp h
  obtain ⟨walk, hwalk, -⟩ := bind_eq_ok.mp h
  have rounds : ∀ (nodes : List TraceNodeRow) (before after : TraceWalk) (rows : List TraceNode),
      nodes.foldlM (revalidateNode capture) before = .ok after → ∃ last : TraceWalk,
        nodes.foldlM structureRound ⟨before.seen, before.openPath, rows⟩ = .ok last := by
    intro nodes
    induction nodes with
    | nil => exact fun before after rows _ => ⟨_, rfl⟩
    | cons node nodes ih =>
        intro before after rows hrounds
        rw [List.foldlM_cons] at hrounds
        obtain ⟨next, hnode, hrounds⟩ := bind_eq_ok.mp hrounds
        obtain ⟨last, hlast⟩ := ih next after [] hrounds
        refine ⟨last, ?_⟩
        rw [List.foldlM_cons, structureRound_of_revalidateNode hnode rows]
        exact hlast
  obtain ⟨last, hlast⟩ := rounds _ _ _ [] hwalk
  exact ⟨last, bind_eq_ok.mpr ⟨_, hcount, hlast⟩⟩

/-- The structural checks accept exactly the preorder listings of one tree,
an accepted capture has passed them, and the walk over a provider's answer
lists its tree in the order of the recursion. -/
theorem preorder_validation_exact :
    (∀ nodes, (∃ walk, revalidateStructure nodes = .ok walk) ↔
      TraceBounds nodes ∧ ∃! tree, ListsTrace tree nodes) ∧
    (∀ derive digest transactions capture run selected persisted,
      revalidateCapture derive digest transactions capture run selected = .ok persisted →
        ∃ walk, revalidateStructure capture.sortedNodes = .ok walk) ∧
    (∀ network rootHash root (tree : Preorder.Tree JsonFields),
      Preorder.Unfolds TonapiTraces.childrenOf [root] tree.forest →
      tree.size ≤ maxTransactionNodes →
        persistedWalk network rootHash root =
          tree.forest.walk (persistedNode network rootHash) ⟨none, none, 0⟩ Graph.start ∧
        ∀ graph, persistedWalk network rootHash root = .ok graph →
          List.Forall₂ NodeAt graph.nodes tree.listing) ∧
    ∀ payload requested network response,
      TonapiTraces.normalizeTransactionTracePersistedEvidenceResponse payload requested network =
        .ok response → ∃ (root : JsonFields) (tree : Preorder.Tree JsonFields),
          asObject payload = some root ∧
          Preorder.Unfolds TonapiTraces.childrenOf [root] tree.forest ∧
          tree.size ≤ maxTransactionNodes ∧
          (∀ place ∈ tree.listing, place.depth ≤ TonapiTraces.maxDepth) ∧
          List.Forall₂ NodeAt response.nodes tree.listing := by
  refine ⟨fun nodes => structure_iff, fun _ _ _ _ _ _ _ => revalidateCapture_structure,
    fun network rootHash root tree unfolds hsize =>
      ⟨persistedWalk_eq unfolds hsize, fun graph => persistedWalk_lists unfolds hsize⟩, ?_⟩
  intro payload requested network response h
  obtain ⟨preview, hpreview, h⟩ := bind_eq_ok.mp h
  obtain ⟨_, -, h⟩ := bind_eq_ok.mp h
  obtain ⟨root, hroot, h⟩ := bind_eq_ok.mp h
  obtain ⟨graph, hgraph, h⟩ := bind_eq_ok.mp h
  obtain ⟨root', tree, hroot', unfolds, hsize, hdepths⟩ := preview_unfolds hpreview
  cases (require_eq_ok.mp hroot).symm.trans hroot'
  obtain ⟨_, -, h⟩ := bind_eq_ok.mp h
  obtain ⟨_, -, h⟩ := bind_eq_ok.mp h
  obtain ⟨_, -, h⟩ := bind_eq_ok.mp h
  cases h
  exact ⟨root, tree, require_eq_ok.mp hroot, unfolds, hsize, hdepths,
    persistedWalk_lists unfolds hsize hgraph⟩

end TonTracker
