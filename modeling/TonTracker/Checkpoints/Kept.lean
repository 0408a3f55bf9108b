/-
# `Checkpoints.Kept` — what later states keep of published revisions

A checkpoint is read with its source sync, the manifest of that sync and,
through the plan, its parent or base snapshot.  All of them are written
once: a published sync has ended, a manifest and a checkpoint are inserted
with the publication, and what is inserted later has a larger id.
`CheckpointsKept` says what a later state of a case keeps of an earlier
one, and `verifiedStreamCheckpointChain_kept` that a revision reads the
same in both, to the text of the error that its chain may end in.
-/
import TonTracker.Activity.PinnedSnapshots

namespace TonTracker

open Relational (Table)
open Session (World Run Move Reaches)

/-! ## What a commit does to manifests and checkpoints -/

namespace Store

variable (s : Store) (p : Publication)

theorem published_manifests : (s.published p).manifests = s.manifests.insert p.manifest := rfl

theorem published_checkpoints :
    (s.published p).checkpoints = p.checkpoints.foldl Table.insert s.checkpoints := rfl

theorem published_syncs : (s.published p).syncs = s.syncs.update fun id row =>
    if p.selects id row then some (p.published s.runs.nextId row) else none := rfl

end Store

/-- A commit leaves both tables, or adds what a publication carries, or
deletes a case with them. -/
inductive JournalStep (w : Write) (s s' : Store) : Prop
  | same (hmanifests : s'.manifests = s.manifests) (hcheckpoints : s'.checkpoints = s.checkpoints)
  | published (p : Publication) (id : Nat) (row : SyncRow) (hw : w = .publish p)
      (hrow : s.syncs.get? id = some row) (hselects : p.selects id row = true)
      (hfree : p.checkpointsCollide s = false) (hs : s' = s.published p)
  | deleted (target : CaseTarget) (now : Instant) (hw : w = .deleteCase target now)
      (hs : s' = s.deleted target now)

theorem JournalStep.of_touch {w : Write} {s : Store} {caseId : Nat} {visible : Bool}
    {now : Instant} {f : CaseRow → CaseRow} :
    JournalStep w s (s.touch caseId visible now f).2 := by
  unfold Store.touch
  split <;> exact .same rfl rfl

theorem JournalStep.of_touchIf {w : Write} {s : Store} {caseId : Nat}
    {condition : CaseRow → Bool} {visible : Bool} {now : Instant} {f : CaseRow → CaseRow} :
    JournalStep w s (s.touchIf caseId condition visible now f).2 := by
  unfold Store.touchIf
  split <;> exact .same rfl rfl

theorem commit_journalStep (w : Write) (s : Store) : JournalStep w s (w.commit s).2 := by
  cases w with
  | createCase row =>
      simp only [Write.commit]
      split <;> exact .same rfl rfl
  | reopenCase caseId now => exact .of_touch
  | updateMetadata target expected change now => exact .of_touchIf
  | archiveCase target now => exact .of_touchIf
  | restoreCase target now => exact .of_touchIf
  | deleteCase target now =>
      rcases Write.deleteCase_cases target now s with hsame | ⟨-, hdeleted⟩
      · rw [hsame]
        exact .same rfl rfl
      · exact .deleted target now rfl hdeleted
  | insertSync row =>
      rcases Write.insertSync_cases row s with hsame | ⟨-, -, hinserted⟩
      · rw [hsame]
        exact .same rfl rfl
      · rw [hinserted]
        exact .same rfl rfl
  | sync v => exact .same rfl rfl
  | publish p =>
      rcases Write.publish_cases p s with hsame | ⟨⟨id, row, hrow, hselects⟩, -, hfree, -, hpublished⟩
      · rw [hsame]
        exact .same rfl rfl
      · exact .published p id row rfl hrow hselects hfree hpublished
  | evidence v =>
      simp only [Write.commit]
      split <;> exact .same rfl rfl
  | startBuilder token => exact .same rfl rfl

/-- A sync that has ended stays, unless its case is deleted. -/
theorem ended_keeps {w : Write} {s : Store} {id : Nat} {row : SyncRow}
    (h : s.syncs.get? id = some row) (hended : row.state.active = false) :
    (w.commit s).2.syncs.get? id = some row ∨ ∃ target now, w = .deleteCase target now ∧
      row.caseId = target.caseId ∧ (w.commit s).2 = s.deleted target now := by
  by_cases hd : ∃ target now, w = .deleteCase target now ∧ row.caseId = target.caseId
  · obtain ⟨target, now, rfl, hcase⟩ := hd
    rcases Write.deleteCase_cases target now s with hsame | ⟨-, hdeleted⟩
    · rw [hsame]
      exact .inl h
    · exact .inr ⟨target, now, rfl, hcase, hdeleted⟩
  · obtain ⟨row', hrow'⟩ := Write.syncs_keeps
      (fun target now hw hcase => hd ⟨target, now, hw, hcase⟩) h
    rw [(Write.syncs_step h hrow').2 hended] at hrow'
    exact .inl hrow'

/-- A manifest after a commit: it was there, or was just published. -/
theorem manifests_after {w : Write} {s : Store} {id : Nat} {m : ManifestRow}
    (h : (w.commit s).2.manifests.get? id = some m) :
    s.manifests.get? id = some m ∨ ∃ p i row, w = .publish p ∧ m = p.manifest ∧
      s.syncs.get? i = some row ∧ p.selects i row = true ∧ (w.commit s).2 = s.published p := by
  cases commit_journalStep w s with
  | same hmanifests hcheckpoints => exact .inl (hmanifests ▸ h)
  | published p i row hw hrow hselects hfree hs =>
      rw [hs, Store.published_manifests, Table.get?_insert] at h
      split at h
      · cases h
        exact .inr ⟨p, i, row, hw, rfl, hrow, hselects, hs⟩
      · exact .inl h
  | deleted target now hw hs =>
      rw [hs] at h
      exact .inl (get?_deleteOf.mp h).1

/-- A checkpoint after a commit: it was there, or was just published. -/
theorem checkpoints_after {w : Write} {s : Store} {id : Nat} {c : CheckpointRow}
    (h : (w.commit s).2.checkpoints.get? id = some c) :
    s.checkpoints.get? id = some c ∨ ∃ p i row, w = .publish p ∧ s.syncs.get? i = some row ∧
      p.selects i row = true ∧ (w.commit s).2 = s.published p ∧
      p.checkpointsCollide s = false ∧ s.checkpoints.nextId ≤ id ∧
      p.checkpoints[id - s.checkpoints.nextId]? = some c := by
  cases commit_journalStep w s with
  | same hmanifests hcheckpoints => exact .inl (hcheckpoints ▸ h)
  | published p i row hw hrow hselects hfree hs =>
      rw [hs, Store.published_checkpoints, Table.get?_insertAll] at h
      split at h
      · exact .inl h
      case isFalse hid =>
        exact .inr ⟨p, i, row, hw, hrow, hselects, hs, hfree, Nat.not_lt.mp hid, h⟩
  | deleted target now hw hs =>
      rw [hs] at h
      exact .inl (get?_deleteOf.mp h).1

/-- What a publication adds belongs to the claimed sync. -/
theorem publication_checkpoint {sha : Sha256} {claimed : ClaimedCaseSync} {run : IngestionRun}
    {now : Instant} {c : CheckpointRow} (h : c ∈ (publication sha claimed run now).checkpoints) :
    c.caseId = claimed.caseId ∧ c.sourceSyncId = claimed.lease.jobId := by
  obtain ⟨document, -, rfl⟩ := List.mem_map.mp h
  exact ⟨rfl, rfl⟩

/-- The unique indexes of the checkpoints hold of a publication. -/
theorem checkpointsCollide_eq_false {p : Publication} {s : Store}
    (h : p.checkpointsCollide s = false) :
    (∀ c ∈ p.checkpoints, ∀ id stored, s.checkpoints.get? id = some stored →
      stored.publicId ≠ c.publicId) ∧ (p.checkpoints.map (·.publicId)).Nodup := by
  unfold Publication.checkpointsCollide at h
  simp only [Bool.or_eq_false_iff, List.any_eq_false, decide_eq_false_iff_not, not_not] at h
  refine ⟨fun c hc id stored hstored heq => ?_, h.1.2⟩
  have free := h.1.1 c hc
  rw [Bool.not_eq_true, Option.isSome_eq_false_iff, Option.isNone_iff_eq_none] at free
  have := s.checkpoints.find?_eq_none.mp free id stored hstored
  simp [heq] at this

/-! ## Ownership -/

/-- Checkpoints and manifests belong to syncs that have ended. -/
structure JournalOwned (s : Store) : Prop where
  ids : ∀ a b ca cb, s.checkpoints.get? a = some ca → s.checkpoints.get? b = some cb →
    ca.publicId = cb.publicId → a = b
  sources : ∀ id c, s.checkpoints.get? id = some c → ∃ row,
    s.syncs.get? c.sourceSyncId = some row ∧ row.caseId = c.caseId ∧ row.state.active = false
  manifests : ∀ id m, s.manifests.get? id = some m → ∃ row,
    s.syncs.get? m.caseSyncId = some row ∧ row.state.active = false

/-- The row of the fence after a publication. -/
theorem published_row {p : Publication} {s : Store} {i : Nat} {row : SyncRow}
    (hrow : s.syncs.get? i = some row) (hselects : p.selects i row = true) :
    (s.published p).syncs.get? i = some (p.published s.runs.nextId row) := by
  rw [Store.published_syncs, Table.get?_update, hrow, Option.map_some, if_pos hselects,
    Option.getD_some]

theorem JournalOwned.commit {w : Write} {s : Store} (hw : w.WellFormed) (h : JournalOwned s) :
    JournalOwned (w.commit s).2 := by
  refine ⟨fun a b ca cb ha hb hid => ?_, fun id c hc => ?_, fun id m hm => ?_⟩
  · rcases checkpoints_after ha with ha₀ | ⟨p, i, row, hp, -, -, -, hfree, hlow, hca⟩ <;>
      rcases checkpoints_after hb with hb₀ | ⟨q, j, row', hq, -, -, -, hfree', hlow', hcb⟩
    · exact h.ids a b ca cb ha₀ hb₀ hid
    · exact absurd hid
        ((checkpointsCollide_eq_false hfree').1 cb (List.mem_of_getElem? hcb) a ca ha₀)
    · exact absurd hid.symm
        ((checkpointsCollide_eq_false hfree).1 ca (List.mem_of_getElem? hca) b cb hb₀)
    · subst hp
      cases hq
      have hnodup := (checkpointsCollide_eq_false hfree).2
      have hposition : a - s.checkpoints.nextId = b - s.checkpoints.nextId := by
        refine (List.getElem?_inj ?_ hnodup).mp ?_
        · rw [List.length_map]
          exact (List.getElem?_eq_some_iff.mp hca).1
        · rw [List.getElem?_map, List.getElem?_map, hca, hcb, Option.map_some, Option.map_some, hid]
      omega
  · rcases checkpoints_after hc with hc₀ | ⟨p, i, row, rfl, hrow, hselects, hs, -, -, hnew⟩
    · obtain ⟨row, hrow, hcase, hended⟩ := h.sources id c hc₀
      rcases @ended_keeps w s _ _ hrow hended with hkept | ⟨target, now, -, htarget, hs⟩
      · exact ⟨row, hkept, hcase, hended⟩
      · rw [hs] at hc
        exact absurd (decide_eq_true (hcase.symm.trans htarget)) (get?_deleteOf.mp hc).2
    · obtain ⟨sha, claimed, run, now, rfl⟩ := hw
      obtain ⟨hcase, hsource⟩ := publication_checkpoint (List.mem_of_getElem? hnew)
      have hfence := Publication.selects_iff.mp hselects
      rw [hs, hsource]
      refine ⟨_, hfence.1 ▸ published_row hrow hselects, ?_, publication_terminal sha claimed run now⟩
      exact hfence.2.1.trans hcase.symm
  · rcases manifests_after hm with hm₀ | ⟨p, i, row, rfl, rfl, hrow, hselects, hs⟩
    · obtain ⟨row, hrow, hended⟩ := h.manifests id m hm₀
      rcases @ended_keeps w s _ _ hrow hended with hkept | ⟨target, now, -, htarget, hs⟩
      · exact ⟨row, hkept, hended⟩
      · rw [hs] at hm
        refine absurd ?_ (get?_deleteOf.mp hm).2
        unfold Store.ofCase
        rw [hrow, Option.any_some, htarget]
        exact decide_eq_true rfl
    · obtain ⟨sha, claimed, run, now, rfl⟩ := hw
      have hfence := Publication.selects_iff.mp hselects
      rw [hs]
      exact ⟨_, hfence.1 ▸ published_row hrow hselects, publication_terminal sha claimed run now⟩

theorem journalOwned_of_reaches {sha : Sha256} {world : World (caseSystem sha)}
    (reached : Reaches start world) : JournalOwned world.state :=
  (wellFormed_run reached).inv JournalOwned (fun _ _ _ hw h => h.commit hw.2)
    ⟨fun _ _ _ _ h => (nomatch h), fun _ _ h => (nomatch h), fun _ _ h => nomatch h⟩

theorem publicIds_of_reaches {sha : Sha256} {world : World (caseSystem sha)}
    (reached : Reaches start world) : PublicIds world.state :=
  (wellFormed_run reached).inv PublicIds (fun _ _ _ _ h => h.commit)
    ⟨fun _ _ _ _ h => (nomatch h), fun _ _ _ _ h => nomatch h⟩

/-! ## What a case keeps -/

/-- A later state of a case that is not deleted. -/
structure CheckpointsKept (caseId : Nat) (s s' : Store) : Prop where
  kept : ∀ id c, s.checkpoints.get? id = some c → c.caseId = caseId →
    s'.checkpoints.get? id = some c
  later : ∀ id c, s'.checkpoints.get? id = some c → c.caseId = caseId →
    s.checkpoints.get? id = some c ∨
      ∀ a ca, s.checkpoints.get? a = some ca → ca.caseId = caseId → a < id
  sources : ∀ id c, s.checkpoints.get? id = some c → c.caseId = caseId →
    s'.syncs.get? c.sourceSyncId = s.syncs.get? c.sourceSyncId ∧
      s'.manifestForSync? c.sourceSyncId = s.manifestForSync? c.sourceSyncId
  syncs : ∀ id row, s.syncs.get? id = some row → row.caseId = caseId →
    ∃ row', s'.syncs.get? id = some row' ∧ row'.fixed = row.fixed
  newer : ∀ id row', s'.syncs.get? id = some row' → row'.caseId = caseId →
    (∃ row, s.syncs.get? id = some row ∧ row'.fixed = row.fixed) ∨
      ∀ a ra, s.syncs.get? a = some ra → ra.caseId = caseId → a < id

namespace CheckpointsKept

variable {caseId : Nat}

theorem refl (s : Store) : CheckpointsKept caseId s s :=
  ⟨fun _ _ h _ => h, fun _ _ h _ => .inl h, fun _ _ _ _ => ⟨rfl, rfl⟩,
    fun _ row h _ => ⟨row, h, rfl⟩, fun _ row h _ => .inl ⟨row, h, rfl⟩⟩

theorem caseId_of_fixed {row row' : SyncRow} (h : row'.fixed = row.fixed) :
    row'.caseId = row.caseId := congrArg (·.caseId) h

theorem trans {s₁ s₂ s₃ : Store} (h : CheckpointsKept caseId s₁ s₂)
    (h' : CheckpointsKept caseId s₂ s₃) : CheckpointsKept caseId s₁ s₃ where
  kept id c hc hcase := h'.kept id c (h.kept id c hc hcase) hcase
  later id c hc hcase := by
    rcases h'.later id c hc hcase with hc₂ | hnewer
    · exact h.later id c hc₂ hcase
    · exact .inr fun a ca ha hca => hnewer a ca (h.kept a ca ha hca) hca
  sources id c hc hcase := by
    obtain ⟨hsync, hmanifest⟩ := h.sources id c hc hcase
    obtain ⟨hsync', hmanifest'⟩ := h'.sources id c (h.kept id c hc hcase) hcase
    exact ⟨hsync'.trans hsync, hmanifest'.trans hmanifest⟩
  syncs id row hrow hcase := by
    obtain ⟨row₂, hrow₂, hfixed⟩ := h.syncs id row hrow hcase
    obtain ⟨row₃, hrow₃, hfixed'⟩ := h'.syncs id row₂ hrow₂ ((caseId_of_fixed hfixed).trans hcase)
    exact ⟨row₃, hrow₃, hfixed'.trans hfixed⟩
  newer id row hrow hcase := by
    rcases h'.newer id row hrow hcase with ⟨row₂, hrow₂, hfixed⟩ | hnewer
    · rcases h.newer id row₂ hrow₂ ((caseId_of_fixed hfixed).symm.trans hcase) with
        ⟨row₁, hrow₁, hfixed'⟩ | hnewer
      · exact .inl ⟨row₁, hrow₁, hfixed.trans hfixed'⟩
      · exact .inr hnewer
    · refine .inr fun a ra ha hra => ?_
      obtain ⟨ra₂, ha₂, hfixed⟩ := h.syncs a ra ha hra
      exact hnewer a ra₂ ha₂ ((caseId_of_fixed hfixed).trans hra)

end CheckpointsKept

/-- A commit that does not delete the case. -/
theorem checkpointsKept_commit {w : Write} {s : Store} {caseId : Nat}
    (hd : ∀ target now, w = .deleteCase target now → caseId ≠ target.caseId)
    (hinserts : w.WellFormed) (owned : JournalOwned s) :
    CheckpointsKept caseId s (w.commit s).2 := by
  refine ⟨fun id c hc hcase => ?_, fun id c hc hcase => ?_, fun id c hc hcase => ?_,
    fun id row hrow hcase => ?_, fun id row hrow hcase => ?_⟩
  · cases commit_journalStep w s with
    | same hmanifests hcheckpoints => exact hcheckpoints ▸ hc
    | published p i row hw hrow hselects hfree hs =>
        rw [hs, Store.published_checkpoints, Table.get?_insertAll,
          if_pos (s.checkpoints.lt_nextId hc)]
        exact hc
    | deleted target now hw hs =>
        rw [hs]
        refine get?_deleteOf.mpr ⟨hc, fun htarget => hd target now hw ?_⟩
        exact hcase.symm.trans (of_decide_eq_true htarget)
  · rcases checkpoints_after hc with hc₀ | ⟨p, i, row, -, -, -, -, -, hlow, -⟩
    · exact .inl hc₀
    · exact .inr fun a ca ha _ => Nat.lt_of_lt_of_le (s.checkpoints.lt_nextId ha) hlow
  · obtain ⟨row, hrow, hsame, hended⟩ := owned.sources id c hc
    have hkept : (w.commit s).2.syncs.get? c.sourceSyncId = some row := by
      rcases @ended_keeps w s _ _ hrow hended with hkept | ⟨target, now, hw, htarget, -⟩
      · exact hkept
      · exact absurd (hcase.symm.trans (hsame.symm.trans htarget)) (hd target now hw)
    refine ⟨hkept.trans hrow.symm, congrArg (Option.map _) (Table.find?_congr fun m value hm => ?_)⟩
    have hsource := of_decide_eq_true hm
    cases commit_journalStep w s with
    | same hmanifests hcheckpoints => rw [hmanifests]
    | published p i running hw hrunning hselects hfree hs =>
        rw [hs, Store.published_manifests, Table.get?_insert]
        split
        case isTrue hnew =>
          subst hnew
          rw [Table.get?_nextId]
          refine iff_of_false (fun heq => ?_) (fun h => nomatch h)
          -- the manifest is of the running sync of the fence
          cases heq
          subst hw
          obtain ⟨sha, claimed, run, now, rfl⟩ := hinserts
          have hfence := Publication.selects_iff.mp hselects
          have hsync : c.sourceSyncId = i := hsource.symm.trans hfence.1.symm
          rw [← hsync, hrow] at hrunning
          cases hrunning
          rw [(SyncRow.ownedBy_running hfence.2.2.1).1] at hended
          cases hended
        case isFalse => exact Iff.rfl
    | deleted target now hw hs =>
        rw [hs]
        refine get?_deleteOf.trans (and_iff_left ?_)
        intro htarget
        unfold Store.ofCase at htarget
        rw [hsource, hrow, Option.any_some] at htarget
        exact hd target now hw (hcase.symm.trans (hsame.symm.trans (of_decide_eq_true htarget)))
  · obtain ⟨row', hrow'⟩ := Write.syncs_keeps
      (fun target now hw => hcase ▸ hd target now hw) hrow
    exact ⟨row', hrow', (Write.syncs_step hrow hrow').1⟩
  · rcases Write.syncs_after hrow with hsame | ⟨-, rfl, -, -⟩ | ⟨v, row₀, -, hrow₀, happly⟩ |
      ⟨p, row₀, -, hrow₀, -, rfl⟩
    · exact .inl ⟨row, hsame, rfl⟩
    · exact .inr fun a ra ha _ => s.syncs.lt_nextId ha
    · exact .inl ⟨row₀, hrow₀, (SyncWrite.apply_active happly).2⟩
    · exact .inl ⟨row₀, hrow₀, rfl⟩

theorem checkpointsKept_of_run {sha : Sha256} {world world' : World (caseSystem sha)}
    (reached : Reaches start world) {caseId : Nat} (rest : Run (KeepsCase caseId) world world') :
    CheckpointsKept caseId world.state world'.state := by
  obtain ⟨-, kept⟩ := (wellFormed_rest reached rest).inv
    (fun s : Store => JournalOwned s ∧ CheckpointsKept caseId world.state s)
    (fun _ _ _ hw h => ⟨h.1.commit hw.2, h.2.trans (checkpointsKept_commit hw.1 hw.2 h.1)⟩)
    ⟨journalOwned_of_reaches reached, .refl _⟩
  exact kept

/-! ## The verified reads -/

section Reads

variable {caseId : Nat} {s s' : Store} {sha : Sha256} {casePublicId : Uuid}

theorem streamCheckpointResponse_kept (h : CheckpointsKept caseId s s') {id : Nat}
    {c : CheckpointRow} (hc : s.checkpoints.get? id = some c) (hcase : c.caseId = caseId) :
    streamCheckpointResponse sha s' casePublicId c = streamCheckpointResponse sha s casePublicId c := by
  obtain ⟨hsync, hmanifest⟩ := h.sources id c hc hcase
  unfold streamCheckpointResponse
  rw [hsync, hmanifest]

theorem streamCheckpoint?_eq_some (owned : JournalOwned s) {publicId : HexDigest}
    {found : Nat × CheckpointRow} : s.streamCheckpoint? caseId publicId = some found ↔
      s.checkpoints.get? found.1 = some found.2 ∧ found.2.caseId = caseId ∧
        found.2.publicId = publicId := by
  obtain ⟨id, c⟩ := found
  unfold Store.streamCheckpoint?
  rw [Table.find?_eq_some_iff]
  · simp only [Bool.and_eq_true, decide_eq_true_eq]
  · intro a b ca cb ha hb hpa hpb
    simp only [Bool.and_eq_true, decide_eq_true_eq] at hpa hpb
    exact owned.ids a b ca cb ha hb (hpa.2.trans hpb.2.symm)

theorem sync?_eq_some (ids : PublicIds s) {publicId : Uuid} {found : Nat × SyncRow} :
    s.sync? caseId publicId = some found ↔
      s.syncs.get? found.1 = some found.2 ∧ found.2.caseId = caseId ∧
        found.2.publicId = publicId := by
  obtain ⟨id, row⟩ := found
  unfold Store.sync?
  rw [Table.find?_eq_some_iff]
  · simp only [Bool.and_eq_true, decide_eq_true_eq]
  · intro a b ra rb ha hb hpa hpb
    simp only [Bool.and_eq_true, decide_eq_true_eq] at hpa hpb
    exact ids.syncs a b ra rb ha hb (hpa.2.trans hpb.2.symm)

/-- The checks on a base snapshot compare it with a sync of the case. -/
theorem baseSnapshotValid_kept (h : CheckpointsKept caseId s s') (ids : PublicIds s)
    (ids' : PublicIds s') {sourceId : Nat} {source : SyncRow}
    (hsource : s.syncs.get? sourceId = some source) (hcase : source.caseId = caseId)
    (base : Uuid) : baseSnapshotValid s' caseId sourceId base =
      baseSnapshotValid s caseId sourceId base := by
  have valid : ∀ t : Store, PublicIds t → (baseSnapshotValid t caseId sourceId base = true ↔
      ∃ id row, t.syncs.get? id = some row ∧ row.caseId = caseId ∧ row.publicId = base ∧
        id < sourceId) := by
    intro t tids
    unfold baseSnapshotValid
    cases found : t.sync? caseId base with
    | none =>
        refine iff_of_false Bool.false_ne_true ?_
        rintro ⟨id, row, hrow, hrowcase, hbase, -⟩
        have := (sync?_eq_some tids).mpr (⟨hrow, hrowcase, hbase⟩ :
          t.syncs.get? (id, row).1 = some (id, row).2 ∧ _)
        rw [found] at this
        cases this
    | some row =>
        obtain ⟨hrow, hrowcase, hbase⟩ := (sync?_eq_some tids).mp found
        refine decide_eq_true_iff.trans ⟨fun hlt => ⟨row.1, row.2, hrow, hrowcase, hbase, hlt⟩, ?_⟩
        rintro ⟨id, row', hrow', -, hbase', hlt⟩
        rw [tids.syncs row.1 id row.2 row' hrow hrow' (hbase.trans hbase'.symm)]
        exact hlt
  rw [Bool.eq_iff_iff, valid s' ids', valid s ids]
  constructor
  · rintro ⟨id, row', hrow', hrowcase, hbase, hlt⟩
    rcases h.newer id row' hrow' hrowcase with ⟨row, hrow, hfixed⟩ | hnewer
    · exact ⟨id, row, hrow, (congrArg (·.caseId) hfixed).symm.trans hrowcase,
        (congrArg (·.publicId) hfixed).symm.trans hbase, hlt⟩
    · exact absurd (hnewer sourceId source hsource hcase) (Nat.lt_asymm hlt)
  · rintro ⟨id, row, hrow, hrowcase, hbase, hlt⟩
    obtain ⟨row', hrow', hfixed⟩ := h.syncs id row hrow hrowcase
    exact ⟨id, row', hrow', (congrArg (·.caseId) hfixed).trans hrowcase,
      (congrArg (·.publicId) hfixed).trans hbase, hlt⟩

theorem verify_eq_ok {holds : Bool} {message : String} {u : Unit} :
    verify holds message = .ok u ↔ holds = true := by
  cases holds with
  | true => exact iff_of_true rfl rfl
  | false => exact iff_of_false (fun h => nomatch h) Bool.false_ne_true

theorem orCorrupt_eq_ok {α : Type} {row : Option α} {message : String} {value : α} :
    orCorrupt row message = .ok value ↔ row = some value := by
  cases row with
  | none => exact iff_of_false (fun h => nomatch h) (fun h => nomatch h)
  | some found => exact ⟨fun h => congrArg some (Except.ok.inj h), fun h =>
      congrArg Except.ok (Option.some.inj h)⟩

/-- What a response tells of the source it read. -/
theorem streamCheckpointResponse_source {c : CheckpointRow} {response : VerifiedCheckpoint}
    (h : streamCheckpointResponse sha s casePublicId c = .ok response) :
    response.sourceId = c.sourceSyncId ∧ s.syncs.get? c.sourceSyncId = some response.source ∧
      response.source.caseId = c.caseId := by
  unfold streamCheckpointResponse at h
  obtain ⟨_, -, h⟩ := ExceptFold.bind_eq_ok.mp h
  obtain ⟨source, hsource, h⟩ := ExceptFold.bind_eq_ok.mp h
  obtain ⟨_, hcase, h⟩ := ExceptFold.bind_eq_ok.mp h
  obtain ⟨plan, -, h⟩ := ExceptFold.bind_eq_ok.mp h
  obtain ⟨manifest, -, h⟩ := ExceptFold.bind_eq_ok.mp h
  obtain ⟨_, -, h⟩ := ExceptFold.bind_eq_ok.mp h
  obtain ⟨_, -, h⟩ := ExceptFold.bind_eq_ok.mp h
  cases h
  exact ⟨rfl, orCorrupt_eq_ok.mp hsource, of_decide_eq_true (verify_eq_ok.mp hcase)⟩

/-- A chain reads the same: its revisions are older than the one read first. -/
theorem descendCheckpointChain_kept (h : CheckpointsKept caseId s s') (owned : JournalOwned s)
    (owned' : JournalOwned s') (ids : PublicIds s) (ids' : PublicIds s') :
    ∀ (remaining : Nat) (seen : List HexDigest) (current : Nat × CheckpointRow),
      s.checkpoints.get? current.1 = some current.2 → current.2.caseId = caseId →
      descendCheckpointChain sha s' caseId casePublicId remaining seen current =
        descendCheckpointChain sha s caseId casePublicId remaining seen current := by
  intro remaining
  induction remaining with
  | zero =>
      intro seen current _ _
      rfl
  | succ remaining ih =>
      intro seen current hcurrent hcase
      rw [descendCheckpointChain, descendCheckpointChain,
        streamCheckpointResponse_kept h hcurrent hcase]
      refine congrArg (bind _) (funext fun _ => ?_)
      cases hresponse : streamCheckpointResponse sha s casePublicId current.2 with
      | error error => rfl
      | ok response =>
          obtain ⟨hid, hsource, hsame⟩ := streamCheckpointResponse_source hresponse
          simp only [ExceptFold.ok_bind]
          cases hmode : response.plan.mode with
          | bounded => rfl
          | incremental overlap base =>
              simp only
              rw [hid, baseSnapshotValid_kept h ids ids' hsource (hsame.trans hcase)]
          | resume r =>
              simp only
              cases found : s.streamCheckpoint? caseId r.sourceCheckpoint with
              | some parent =>
                  obtain ⟨hparent, hparentcase, hpublicId⟩ := (streamCheckpoint?_eq_some owned).mp found
                  have found' : s'.streamCheckpoint? caseId r.sourceCheckpoint = some parent :=
                    (streamCheckpoint?_eq_some owned').mpr
                      ⟨h.kept parent.1 parent.2 hparent hparentcase, hparentcase, hpublicId⟩
                  rw [found']
                  have valid : parentValid s' current r.baseSnapshot parent =
                      parentValid s current r.baseSnapshot parent := by
                    unfold parentValid
                    rw [(h.sources parent.1 parent.2 hparent hparentcase).1]
                  simp only [orCorrupt, ExceptFold.ok_bind, valid, ih _ parent hparent hparentcase]
              | none =>
                  -- a revision that is not yet there will be newer than its child
                  cases found' : s'.streamCheckpoint? caseId r.sourceCheckpoint with
                  | none => rfl
                  | some parent =>
                      obtain ⟨hparent, hparentcase, hpublicId⟩ :=
                        (streamCheckpoint?_eq_some owned').mp found'
                      rcases h.later parent.1 parent.2 hparent hparentcase with hold | hnewer
                      · rw [(streamCheckpoint?_eq_some owned).mpr
                          ⟨hold, hparentcase, hpublicId⟩] at found
                        cases found
                      · have hlt := hnewer current.1 current.2 hcurrent hcase
                        have invalid : parentValid s' current r.baseSnapshot parent = false := by
                          unfold parentValid
                          rw [decide_eq_false (Nat.lt_asymm hlt), Bool.false_and, Bool.false_and]
                        simp only [orCorrupt, ExceptFold.ok_bind, invalid, verify]
                        rfl

/-- A published revision reads the same in every later state of its case. -/
theorem verifiedStreamCheckpointChain_kept (h : CheckpointsKept caseId s s')
    (owned : JournalOwned s) (owned' : JournalOwned s') (ids : PublicIds s) (ids' : PublicIds s')
    {current : Nat × CheckpointRow} (hcurrent : s.checkpoints.get? current.1 = some current.2)
    (hcase : current.2.caseId = caseId) :
    verifiedStreamCheckpointChain sha s' caseId casePublicId current =
      verifiedStreamCheckpointChain sha s caseId casePublicId current := by
  unfold verifiedStreamCheckpointChain
  rw [descendCheckpointChain_kept h owned owned' ids ids' _ _ current hcurrent hcase]

end Reads

end TonTracker
