/-
# `Checkpoints.Chains` — how the chain of a revision is made

A verified chain ends in the revision it was read for, and starts where
the parents end.  `WalksTo` is the walk of
`_verified_stream_checkpoint_chain` as a relation, one constructor for a
root and one for a resumed revision; from it a resumed revision's chain is
that of its parent with one link more, so its continuation has the pages of
the parent's and its own.
-/
import Mathlib.Algebra.Order.BigOperators.Group.List
import TonTracker.Checkpoints.Provenance

namespace TonTracker

open ExceptFold (bind_eq_ok)

/-! ## The walk -/

section Walk

variable {sha : Sha256} {s : Store} {caseId : Nat} {casePublicId : Uuid}

/-- The link of a revision that was read. -/
def VerifiedCheckpoint.link (response : VerifiedCheckpoint) (row : CheckpointRow) : ChainLink :=
  ⟨row, response.descriptor, response.document, response.plan⟩

/-- The revisions a walk passes from a checkpoint on. -/
inductive WalksTo (sha : Sha256) (s : Store) (caseId : Nat) (casePublicId : Uuid) :
    Nat × CheckpointRow → List ChainLink → Prop
  | root {current : Nat × CheckpointRow} {response : VerifiedCheckpoint}
      (hresponse : streamCheckpointResponse sha s casePublicId current.2 = .ok response)
      (hmode : response.plan.resume? = none) :
      WalksTo sha s caseId casePublicId current [response.link current.2]
  | resumed {current parent : Nat × CheckpointRow} {response : VerifiedCheckpoint}
      {resume : ResumePlan Uuid HexDigest} {rest : List ChainLink}
      (hresponse : streamCheckpointResponse sha s casePublicId current.2 = .ok response)
      (hmode : response.plan.mode = .resume resume)
      (hparent : s.streamCheckpoint? caseId resume.sourceCheckpoint = some parent)
      (hvalid : parentValid s current resume.baseSnapshot parent = true)
      (hrest : WalksTo sha s caseId casePublicId parent rest) :
      WalksTo sha s caseId casePublicId current (response.link current.2 :: rest)

/-- What a walk returns, and that with more room it returns the same. -/
theorem walk_of_eq_ok : ∀ {remaining : Nat} {seen : List HexDigest}
    {current : Nat × CheckpointRow} {links : List ChainLink},
    descendCheckpointChain sha s caseId casePublicId remaining seen current = .ok links →
      WalksTo sha s caseId casePublicId current links ∧
        ∀ {room : Nat} {passed : List HexDigest}, remaining ≤ room → passed ⊆ seen →
          descendCheckpointChain sha s caseId casePublicId room passed current = .ok links := by
  intro remaining
  induction remaining with
  | zero => exact fun h => nomatch h
  | succ remaining ih =>
      intro seen current links h
      rw [descendCheckpointChain] at h
      obtain ⟨_, hunseen, h⟩ := bind_eq_ok.mp h
      obtain ⟨response, hresponse, h⟩ := bind_eq_ok.mp h
      have unseen : ∀ {passed : List HexDigest}, passed ⊆ seen →
          verify (!passed.contains current.2.publicId)
            "Stored Wallet Case stream checkpoint lineage contains a cycle." = .ok () := by
        intro passed hpassed
        refine verify_eq_ok.mpr ?_
        have := verify_eq_ok.mp hunseen
        rw [Bool.not_eq_true', ← Bool.not_eq_true, List.contains_iff_mem] at this ⊢
        exact fun hmem => this (hpassed hmem)
      dsimp only at h
      cases hmode : response.plan.mode with
      | bounded =>
          rw [hmode] at h
          cases h
          refine ⟨.root hresponse (by simp [AcquisitionPlan.resume?, hmode]), ?_⟩
          intro room passed hroom hpassed
          obtain ⟨room, rfl⟩ : ∃ n, room = n + 1 := ⟨room - 1, by omega⟩
          rw [descendCheckpointChain, unseen hpassed, hresponse]
          simp only [ExceptFold.ok_bind, hmode]
          rfl
      | incremental overlap base =>
          rw [hmode] at h
          obtain ⟨_, hbase, h⟩ := bind_eq_ok.mp h
          cases h
          refine ⟨.root hresponse (by simp [AcquisitionPlan.resume?, hmode]), ?_⟩
          intro room passed hroom hpassed
          obtain ⟨room, rfl⟩ : ∃ n, room = n + 1 := ⟨room - 1, by omega⟩
          rw [descendCheckpointChain, unseen hpassed, hresponse]
          simp only [ExceptFold.ok_bind, hmode]
          rw [hbase]
          rfl
      | resume resume =>
          rw [hmode] at h
          obtain ⟨parent, hparent, h⟩ := bind_eq_ok.mp h
          obtain ⟨_, hvalid, h⟩ := bind_eq_ok.mp h
          obtain ⟨rest, hrest, h⟩ := bind_eq_ok.mp h
          cases h
          obtain ⟨descends, again⟩ := ih hrest
          refine ⟨.resumed hresponse hmode (orCorrupt_eq_ok.mp hparent) (verify_eq_ok.mp hvalid)
            descends, ?_⟩
          intro room passed hroom hpassed
          obtain ⟨room, rfl⟩ : ∃ n, room = n + 1 := ⟨room - 1, by omega⟩
          rw [descendCheckpointChain, unseen hpassed, hresponse]
          simp only [ExceptFold.ok_bind, hmode]
          rw [hparent, ExceptFold.ok_bind, hvalid, ExceptFold.ok_bind,
            again (by omega) (List.cons_subset_cons _ hpassed)]
          rfl

/-- A verified chain is the walk of its tip, turned around. -/
theorem chain_eq_ok {current : Nat × CheckpointRow} {chain : Chain}
    (h : verifiedStreamCheckpointChain sha s caseId casePublicId current = .ok chain) :
    descendCheckpointChain sha s caseId casePublicId maxCheckpointChainRevisions [] current =
      .ok chain.links.reverse := by
  unfold verifiedStreamCheckpointChain at h
  obtain ⟨links, hlinks, h⟩ := bind_eq_ok.mp h
  split at h
  · cases h
    rw [hlinks, List.reverse_reverse]
  · cases h

theorem walk_of_chain {current : Nat × CheckpointRow} {chain : Chain}
    (h : verifiedStreamCheckpointChain sha s caseId casePublicId current = .ok chain) :
    WalksTo sha s caseId casePublicId current chain.links.reverse :=
  (walk_of_eq_ok (chain_eq_ok h)).1

end Walk

namespace Chain

/-- `chain_descriptor["page_count"] - initial_page_count`. -/
def continuationPageCount (chain : Chain) : Nat :=
  (chainAggregate chain.links).pageCount - chain.root.document.pageCount

/-- A chain with one revision more. -/
def extend (chain : Chain) (link : ChainLink) : Chain :=
  ⟨chain.links ++ [link], by simp⟩

theorem root_extend (chain : Chain) (link : ChainLink) : (chain.extend link).root = chain.root :=
  List.head_append_left chain.nonempty

/-- The pages of a revision are added to the continuation. -/
theorem continuationPageCount_extend (chain : Chain) (link : ChainLink) :
    (chain.extend link).continuationPageCount =
      chain.continuationPageCount + link.document.pageCount := by
  have root_le : chain.root.document.pageCount ≤ (chainAggregate chain.links).pageCount :=
    List.le_sum_of_mem (List.mem_map_of_mem (List.head_mem chain.nonempty))
  have total : (chainAggregate (chain.extend link).links).pageCount =
      (chainAggregate chain.links).pageCount + link.document.pageCount := by
    simp [chainAggregate, extend]
  unfold continuationPageCount
  rw [total, root_extend]
  omega

end Chain

section Parents

variable {sha : Sha256} {s : Store} {caseId : Nat} {casePublicId : Uuid}

/-- The tip of a chain is the revision it was read for. -/
theorem chain_tip {current : Nat × CheckpointRow} {chain : Chain}
    (h : verifiedStreamCheckpointChain sha s caseId casePublicId current = .ok chain) :
    ∃ response, streamCheckpointResponse sha s casePublicId current.2 = .ok response ∧
      chain.tip = response.link current.2 := by
  have walk := walk_of_chain h
  have last : ∀ {link : ChainLink} {rest : List ChainLink}, chain.links.reverse = link :: rest →
      chain.tip = link := by
    intro link rest heq
    have links : chain.links = rest.reverse ++ [link] := by
      rw [← List.reverse_reverse chain.links, heq, List.reverse_cons]
    unfold Chain.tip
    simp only [links, List.getLast_append_singleton]
  generalize hlinks : chain.links.reverse = links at walk
  cases walk with
  | root hresponse hmode => exact ⟨_, hresponse, last hlinks⟩
  | resumed hresponse hmode hparent hvalid hrest => exact ⟨_, hresponse, last hlinks⟩

/-- The chain of a resumed revision is its parent's with one link more. -/
theorem chain_of_resumed {current : Nat × CheckpointRow} {chain : Chain}
    (h : verifiedStreamCheckpointChain sha s caseId casePublicId current = .ok chain)
    {response : VerifiedCheckpoint} {resume : ResumePlan Uuid HexDigest}
    (hresponse : streamCheckpointResponse sha s casePublicId current.2 = .ok response)
    (hresume : response.plan.resume? = some resume) :
    ∃ parent before, s.streamCheckpoint? caseId resume.sourceCheckpoint = some parent ∧
      verifiedStreamCheckpointChain sha s caseId casePublicId parent = .ok before ∧
      chain = before.extend (response.link current.2) := by
  have hwalk := chain_eq_ok h
  unfold maxCheckpointChainRevisions at hwalk
  rw [descendCheckpointChain] at hwalk
  obtain ⟨_, -, hwalk⟩ := bind_eq_ok.mp hwalk
  obtain ⟨response', hresponse', hwalk⟩ := bind_eq_ok.mp hwalk
  cases hresponse.symm.trans hresponse'
  have hmode : response.plan.mode = .resume resume := by
    unfold AcquisitionPlan.resume? at hresume
    split at hresume
    · cases hresume
      assumption
    · cases hresume
  dsimp only at hwalk
  rw [hmode] at hwalk
  obtain ⟨parent, hparent, hwalk⟩ := bind_eq_ok.mp hwalk
  obtain ⟨_, -, hwalk⟩ := bind_eq_ok.mp hwalk
  obtain ⟨rest, hrest, hwalk⟩ := bind_eq_ok.mp hwalk
  have links : chain.links = rest.reverse ++ [response.link current.2] := by
    rw [← List.reverse_reverse chain.links, ← Except.ok.inj hwalk, List.reverse_cons]
    rfl
  have hbefore : descendCheckpointChain sha s caseId casePublicId maxCheckpointChainRevisions []
      parent = .ok rest := (walk_of_eq_ok hrest).2 (by decide) (List.nil_subset _)
  obtain ⟨link, older, hnonempty⟩ : ∃ link older, rest = link :: older := by
    cases (walk_of_eq_ok hrest).1 with
    | root => exact ⟨_, _, rfl⟩
    | resumed => exact ⟨_, _, rfl⟩
  have nonempty : rest.reverse ≠ [] := by
    rw [hnonempty]
    simp
  refine ⟨parent, ⟨rest.reverse, nonempty⟩, orCorrupt_eq_ok.mp hparent, ?_, ?_⟩
  · unfold verifiedStreamCheckpointChain
    rw [hbefore, ExceptFold.ok_bind, dif_pos nonempty]
    rfl
  · cases chain
    cases links
    rfl

end Parents

end TonTracker
