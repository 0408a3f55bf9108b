/-
# `Checkpoints.Immutable` — receipts and outcomes stay as they are

A receipt and an outcome are recomputed on every read, from a published
sync, its checkpoints, their chains, and the newest checkpoints up to a
cutoff.  None of these changes while the case is not deleted (`CaseKept`):
a sync that has ended is never published again, and what is published later
has a larger id than the cutoff.
-/
import TonTracker.Checkpoints.Resumes
import TonTracker.Services.ContinuationReceipts

namespace TonTracker

open Relational (Table)
open Session (World Run Move Reaches)
open ExceptFold (bind_eq_ok check_eq_ok mapM_congr exists_of_isOk eq_ok_of_toOption)

/-! ## What a case keeps -/

/-- A sync that has ended stays, and has no checkpoint that it had not. -/
structure SyncSealed (id : Nat) (row : SyncRow) (s s' : Store) : Prop where
  row : s'.syncs.get? id = some row
  checkpoints : ∀ checkpointId c, s'.checkpoints.get? checkpointId = some c →
    c.sourceSyncId = id → s.checkpoints.get? checkpointId = some c

theorem SyncSealed.refl {id : Nat} {row : SyncRow} {s : Store} (h : s.syncs.get? id = some row) :
    SyncSealed id row s s := ⟨h, fun _ _ hc _ => hc⟩

theorem SyncSealed.commit {w : Write} {s₀ s : Store} {id : Nat} {row : SyncRow}
    (hd : ∀ target now, w = .deleteCase target now → row.caseId ≠ target.caseId)
    (hinserts : w.WellFormed) (hended : row.state.active = false)
    (h : SyncSealed id row s₀ s) : SyncSealed id row s₀ (w.commit s).2 := by
  constructor
  · rcases @ended_keeps w s _ _ h.row hended with hkept | ⟨target, now, hw, htarget, -⟩
    · exact hkept
    · exact absurd htarget (hd target now hw)
  · intro checkpointId c hc hsource
    rcases checkpoints_after hc with hc₀ | ⟨p, i, running, rfl, hrunning, hselects, -, -, -, hnew⟩
    · exact h.checkpoints checkpointId c hc₀ hsource
    · -- a publication is of a running sync
      obtain ⟨sha, claimed, run, now, rfl⟩ := hinserts
      obtain ⟨-, hpublished⟩ := publication_checkpoint (List.mem_of_getElem? hnew)
      have hfence := Publication.selects_iff.mp hselects
      have hsync : i = id := hfence.1.trans (hpublished.symm.trans hsource)
      rw [hsync, h.row] at hrunning
      cases hrunning
      rw [(SyncRow.ownedBy_running hfence.2.2.1).1] at hended
      cases hended

/-- A later state of a case that is not deleted. -/
structure CaseKept (caseId : Nat) (s s' : Store) : Prop extends CheckpointsKept caseId s s' where
  owned : JournalOwned s
  owned' : JournalOwned s'
  ids : PublicIds s
  ids' : PublicIds s'
  sealed : ∀ id row, s.syncs.get? id = some row → row.caseId = caseId →
    row.state.active = false → SyncSealed id row s s'
  pinned : ∀ id row, s.syncs.get? id = some row → row.caseId = caseId →
    row.state.active = false → Pinned id row s s'
  cases : ∀ c, s.cases.get? caseId = some c →
    ∃ c', s'.cases.get? caseId = some c' ∧ c'.fixed = c.fixed

theorem caseKept_of_run {sha : Sha256} {world world' : World (caseSystem sha)}
    (reached : Reaches start world) {caseId : Nat} (rest : Run (KeepsCase caseId) world world') :
    CaseKept caseId world.state world'.state := by
  have reached' : Reaches start world' := reached.trans (rest.mono fun _ _ _ _ => trivial)
  refine ⟨checkpointsKept_of_run reached rest, journalOwned_of_reaches reached,
    journalOwned_of_reaches reached', publicIds_of_reaches reached, publicIds_of_reaches reached',
    fun id row hrow hcase hended => ?_, fun id row hrow hcase hended => ?_, fun c hc => ?_⟩
  · subst hcase
    exact (wellFormed_rest reached rest).inv (SyncSealed id row world.state)
      (fun _ _ _ hw h => h.commit hw.1 hw.2 hended) (.refl hrow)
  · subst hcase
    exact pinned_of_run reached hrow hended rest
  · refine (wellFormed_rest reached rest).inv
      (fun s : Store => ∃ c', s.cases.get? caseId = some c' ∧ c'.fixed = c.fixed)
      (fun _ _ s hw h => ?_) ⟨c, hc, rfl⟩
    obtain ⟨c₁, hc₁, hfixed⟩ := h
    obtain ⟨c₂, hc₂, hfixed'⟩ := cases_keeps hw.1 hc₁
    exact ⟨c₂, hc₂, hfixed'.trans hfixed⟩

/-! ## The reads -/

section Reads

variable {caseId : Nat} {s s' : Store} {sha : Sha256} {casePublicId : Uuid}

theorem streamCheckpoint?_kept (h : CaseKept caseId s s') {publicId : HexDigest}
    {found : Nat × CheckpointRow} (hfound : s.streamCheckpoint? caseId publicId = some found) :
    s'.streamCheckpoint? caseId publicId = some found := by
  obtain ⟨hstored, hcase, hid⟩ := (streamCheckpoint?_eq_some h.owned).mp hfound
  exact (streamCheckpoint?_eq_some h.owned').mpr
    ⟨h.kept found.1 found.2 hstored hcase, hcase, hid⟩

/-- Up to a checkpoint of the case both states have the same ones. -/
theorem checkpoint_upTo (h : CaseKept caseId s s') {cutoff : Nat × CheckpointRow}
    (hcutoff : s.checkpoints.get? cutoff.1 = some cutoff.2) (hcase : cutoff.2.caseId = caseId)
    {id : Nat} {c : CheckpointRow} (hid : id ≤ cutoff.1) (hc : c.caseId = caseId) :
    s'.checkpoints.get? id = some c ↔ s.checkpoints.get? id = some c := by
  refine ⟨fun hstored => ?_, fun hstored => h.kept id c hstored hc⟩
  rcases h.later id c hstored hc with hold | hnewer
  · exact hold
  · exact absurd (hnewer cutoff.1 cutoff.2 hcutoff hcase) (Nat.not_lt.mpr hid)

theorem tipsAtCutoff_kept (h : CaseKept caseId s s') {cutoff : Nat × CheckpointRow}
    (hcutoff : s.checkpoints.get? cutoff.1 = some cutoff.2) (hcase : cutoff.2.caseId = caseId) :
    s'.latestStreamCheckpointsAtCutoff caseId (some cutoff.1) =
      s.latestStreamCheckpointsAtCutoff caseId (some cutoff.1) := by
  unfold Store.latestStreamCheckpointsAtCutoff
  refine List.filterMap_congr fun key _ => ?_
  unfold Store.streamTip? Table.latest?
  refine congrArg List.getLast? (Table.select_congr fun id c => and_congr_left fun hselected => ?_)
  simp only [Bool.and_eq_true, decide_eq_true_eq, Option.all_some] at hselected
  exact checkpoint_upTo h hcutoff hcase hselected.2 hselected.1.1

theorem mem_tipsAtCutoff {cutoff : Option Nat} {c : Nat × CheckpointRow}
    (h : c ∈ s.latestStreamCheckpointsAtCutoff caseId cutoff) :
    s.checkpoints.get? c.1 = some c.2 ∧ c.2.caseId = caseId := by
  obtain ⟨key, -, hkey⟩ := List.mem_filterMap.mp h
  exact ⟨(streamTip?_eq_some hkey).1, (streamTip?_eq_some hkey).2.1⟩

theorem chain_kept (h : CaseKept caseId s s') {current : Nat × CheckpointRow}
    (hcurrent : s.checkpoints.get? current.1 = some current.2) (hcase : current.2.caseId = caseId) :
    verifiedStreamCheckpointChain sha s' caseId casePublicId current =
      verifiedStreamCheckpointChain sha s caseId casePublicId current :=
  verifiedStreamCheckpointChain_kept h.toCheckpointsKept h.owned h.owned' h.ids h.ids' hcurrent
    hcase

/-- The plan of the newest checkpoints up to a cutoff. -/
theorem planAtCutoff_kept (h : CaseKept caseId s s') {cutoff : Nat × CheckpointRow}
    (hcutoff : s.checkpoints.get? cutoff.1 = some cutoff.2) (hcase : cutoff.2.caseId = caseId) :
    checkpointContinuationPlanResponse sha s' caseId casePublicId
        (s'.latestStreamCheckpointsAtCutoff caseId (some cutoff.1)) =
      checkpointContinuationPlanResponse sha s caseId casePublicId
        (s.latestStreamCheckpointsAtCutoff caseId (some cutoff.1)) := by
  unfold checkpointContinuationPlanResponse
  rw [tipsAtCutoff_kept h hcutoff hcase, mapM_congr]
  intro c hc
  obtain ⟨hstored, hof⟩ := mem_tipsAtCutoff hc
  exact chain_kept h hstored hof

/-- The progress of the same checkpoints. -/
theorem progressAtCutoff_kept (h : CaseKept caseId s s') {cutoff : Nat × CheckpointRow}
    (hcutoff : s.checkpoints.get? cutoff.1 = some cutoff.2) (hcase : cutoff.2.caseId = caseId) :
    backfillProgressResponse sha s' caseId casePublicId
        (s'.latestStreamCheckpointsAtCutoff caseId (some cutoff.1)) =
      backfillProgressResponse sha s caseId casePublicId
        (s.latestStreamCheckpointsAtCutoff caseId (some cutoff.1)) := by
  unfold backfillProgressResponse
  rw [tipsAtCutoff_kept h hcutoff hcase, mapM_congr]
  intro c hc
  obtain ⟨hstored, hof⟩ := mem_tipsAtCutoff hc
  unfold verifiedProgressStream
  rw [chain_kept h hstored hof]

theorem streamCheckpointsForSync_kept (h : CaseKept caseId s s') {id : Nat} {row : SyncRow}
    (hsealed : SyncSealed id row s s') :
    s'.streamCheckpointsForSync caseId id = s.streamCheckpointsForSync caseId id := by
  unfold Store.streamCheckpointsForSync
  congr 1
  funext key
  refine Table.select_congr fun checkpointId c => and_congr_left fun hselected => ?_
  simp only [Bool.and_eq_true, decide_eq_true_eq] at hselected
  exact ⟨fun hc => hsealed.checkpoints checkpointId c hc hselected.1.2,
    fun hc => h.kept checkpointId c hc hselected.1.1⟩

theorem mem_streamCheckpointsForSync {id : Nat} {c : Nat × CheckpointRow}
    (h : c ∈ s.streamCheckpointsForSync caseId id) :
    s.checkpoints.get? c.1 = some c.2 ∧ c.2.caseId = caseId := by
  obtain ⟨key, -, hc⟩ := List.mem_flatMap.mp h
  obtain ⟨hstored, hselected⟩ := s.checkpoints.mem_select.mp hc
  simp only [Bool.and_eq_true, decide_eq_true_eq] at hselected
  exact ⟨hstored, hselected.1.1⟩

/-- The checkpoints of a receipt. -/
theorem receiptCheckpoints_kept (h : CaseKept caseId s s') {id : Nat} {row : SyncRow}
    (hsealed : SyncSealed id row s s') {publicId : HexDigest}
    {source output : Nat × CheckpointRow}
    (hfound : s.receiptCheckpoints caseId id publicId = some (source, output)) :
    s'.receiptCheckpoints caseId id publicId = some (source, output) ∧
      (s.checkpoints.get? source.1 = some source.2 ∧ source.2.caseId = caseId) ∧
        s.checkpoints.get? output.1 = some output.2 ∧ output.2.caseId = caseId := by
  unfold Store.receiptCheckpoints at hfound ⊢
  rw [streamCheckpointsForSync_kept h hsealed]
  split at hfound
  case h_1 source' output' hsource houtputs =>
    cases hfound
    rw [streamCheckpoint?_kept h hsource, houtputs]
    obtain ⟨hstored, hcase, -⟩ := (streamCheckpoint?_eq_some h.owned).mp hsource
    exact ⟨rfl, ⟨hstored, hcase⟩,
      mem_streamCheckpointsForSync (houtputs ▸ List.mem_singleton_self _)⟩
  case h_2 => cases hfound

/-- The cutoffs of an outcome. -/
theorem outcomeBoundaries_kept (h : CaseKept caseId s s') {inputId outputId : HexDigest}
    {input output : Nat × CheckpointRow}
    (hfound : s.outcomeBoundaries caseId inputId outputId = some (input, output)) :
    s'.outcomeBoundaries caseId inputId outputId = some (input, output) ∧
      (s.checkpoints.get? input.1 = some input.2 ∧ input.2.caseId = caseId) ∧
        s.checkpoints.get? output.1 = some output.2 ∧ output.2.caseId = caseId := by
  unfold Store.outcomeBoundaries at hfound ⊢
  split at hfound
  case h_1 input' output' hinput houtput =>
    cases hfound
    rw [streamCheckpoint?_kept h hinput, streamCheckpoint?_kept h houtput]
    obtain ⟨hstored, hcase, -⟩ := (streamCheckpoint?_eq_some h.owned).mp hinput
    obtain ⟨hstored', hcase', -⟩ := (streamCheckpoint?_eq_some h.owned).mp houtput
    exact ⟨rfl, ⟨hstored, hcase⟩, hstored', hcase'⟩
  case h_2 => cases hfound

theorem ended_of_usable {state : SyncState} (h : state.usable = true) : state.active = false := by
  cases state with
  | queued => cases h
  | running => cases h
  | partialResult => rfl
  | succeeded => rfl
  | failed => rfl
  | cancelled => rfl

/-- The receipt of a sync that was published. -/
theorem continuationReceipt_kept (h : CaseKept caseId s s') {sync : Nat × SyncRow}
    (hsync : s.syncs.get? sync.1 = some sync.2) (hcase : sync.2.caseId = caseId)
    {receipt : Addressed ReceiptDocument}
    (hreceipt : continuationReceipt sha s caseId casePublicId sync = .ok receipt) :
    continuationReceipt sha s' caseId casePublicId sync = .ok receipt := by
  unfold continuationReceipt at hreceipt ⊢
  obtain ⟨plan, hplan, hreceipt⟩ := bind_eq_ok.mp hreceipt
  refine bind_eq_ok.mpr ⟨plan, hplan, ?_⟩
  obtain ⟨⟨resume, bound⟩, hbound, hreceipt⟩ := bind_eq_ok.mp hreceipt
  refine bind_eq_ok.mpr ⟨(resume, bound), hbound, ?_⟩
  obtain ⟨_, husable, hreceipt⟩ := bind_eq_ok.mp hreceipt
  refine bind_eq_ok.mpr ⟨(), husable, ?_⟩
  obtain ⟨⟨source, output⟩, hfound, hreceipt⟩ := bind_eq_ok.mp hreceipt
  obtain ⟨hfound', ⟨hsource, hsourceCase⟩, houtput, houtputCase⟩ := receiptCheckpoints_kept h
    (h.sealed sync.1 sync.2 hsync hcase (ended_of_usable (check_eq_ok.mp husable)))
    (orCorrupt_eq_ok.mp hfound)
  refine bind_eq_ok.mpr ⟨(source, output), orCorrupt_eq_ok.mpr hfound', ?_⟩
  dsimp only at hreceipt ⊢
  rw [chain_kept h hsource hsourceCase, chain_kept h houtput houtputCase,
    planAtCutoff_kept h houtput houtputCase]
  exact hreceipt

/-- The outcome of a scheduled sync that was published. -/
theorem backfillOutcome_kept (h : CaseKept caseId s s') {sync : Nat × SyncRow}
    (hsync : s.syncs.get? sync.1 = some sync.2) (hcase : sync.2.caseId = caseId)
    {outcome : Addressed OutcomeDocument}
    (houtcome : backfillOutcome sha s caseId casePublicId sync = .ok outcome) :
    backfillOutcome sha s' caseId casePublicId sync = .ok outcome := by
  unfold backfillOutcome at houtcome ⊢
  obtain ⟨plan, hplan, houtcome⟩ := bind_eq_ok.mp houtcome
  refine bind_eq_ok.mpr ⟨plan, hplan, ?_⟩
  obtain ⟨⟨resume, bound⟩, hbound, houtcome⟩ := bind_eq_ok.mp houtcome
  refine bind_eq_ok.mpr ⟨(resume, bound), hbound, ?_⟩
  obtain ⟨_, husable, houtcome⟩ := bind_eq_ok.mp houtcome
  refine bind_eq_ok.mpr ⟨(), husable, ?_⟩
  obtain ⟨receipt, hreceipt, houtcome⟩ := bind_eq_ok.mp houtcome
  refine bind_eq_ok.mpr ⟨receipt, continuationReceipt_kept h hsync hcase hreceipt, ?_⟩
  obtain ⟨_, hscheduled, houtcome⟩ := bind_eq_ok.mp houtcome
  refine bind_eq_ok.mpr ⟨(), hscheduled, ?_⟩
  obtain ⟨⟨input, output⟩, hfound, houtcome⟩ := bind_eq_ok.mp houtcome
  obtain ⟨hfound', ⟨hinput, hinputCase⟩, houtput, houtputCase⟩ :=
    outcomeBoundaries_kept h (orCorrupt_eq_ok.mp hfound)
  refine bind_eq_ok.mpr ⟨(input, output), orCorrupt_eq_ok.mpr hfound', ?_⟩
  dsimp only at houtcome ⊢
  rw [progressAtCutoff_kept h hinput hinputCase, planAtCutoff_kept h hinput hinputCase,
    progressAtCutoff_kept h houtput houtputCase]
  exact houtcome

end Reads

/-! ## Every later state -/

section Later

variable {caseId : Nat} {s s' : Store} {owner : Text} {casePublicId : Uuid}

theorem requiredCase_eq_ok {found : Nat × CaseRow} :
    s.requiredCase owner casePublicId = .ok found ↔
      s.caseByPublicId? owner casePublicId = some found := by
  unfold Store.requiredCase
  cases s.caseByPublicId? owner casePublicId with
  | none => exact iff_of_false (fun h => nomatch h) (fun h => nomatch h)
  | some other => exact ⟨fun h => congrArg some (Except.ok.inj h), fun h =>
      congrArg Except.ok (Option.some.inj h)⟩

theorem requiredSync_eq_ok {syncPublicId : Uuid} {found : Nat × SyncRow} :
    s.requiredSync caseId syncPublicId = .ok found ↔ s.sync? caseId syncPublicId = some found := by
  unfold Store.requiredSync
  cases s.sync? caseId syncPublicId with
  | none => exact iff_of_false (fun h => nomatch h) (fun h => nomatch h)
  | some other => exact ⟨fun h => congrArg some (Except.ok.inj h), fun h =>
      congrArg Except.ok (Option.some.inj h)⟩

/-- A case that is read is a stored one. -/
theorem requiredCase_row {c : CaseRow} (h : s.requiredCase owner casePublicId = .ok (caseId, c)) :
    s.cases.get? caseId = some c ∧ c.ownerScopeId = owner ∧ c.publicId = casePublicId := by
  obtain ⟨hstored, hselected⟩ := s.cases.find?_eq_some (requiredCase_eq_ok.mp h)
  simp only [Bool.and_eq_true, decide_eq_true_eq] at hselected
  exact ⟨hstored, hselected.1.1, hselected.1.2⟩

/-- It is read again, under the same public id, unless it was archived. -/
theorem requiredCase_kept (h : CaseKept caseId s s') {c : CaseRow}
    (hcase : s.requiredCase owner casePublicId = .ok (caseId, c)) :
    (∃ c', s'.requiredCase owner casePublicId = .ok (caseId, c') ∧ c'.publicId = c.publicId) ∨
      ∃ c', s'.cases.get? caseId = some c' ∧ c'.archivedAt.isSome = true := by
  obtain ⟨hstored, rfl, rfl⟩ := requiredCase_row hcase
  obtain ⟨c', hc', hfixed⟩ := h.cases c hstored
  simp only [CaseRow.fixed, Prod.mk.injEq] at hfixed
  obtain ⟨hid, howner, -⟩ := hfixed
  by_cases harchived : c'.archivedAt = none
  · refine .inl ⟨c', requiredCase_eq_ok.mpr ?_, hid⟩
    rw [← hid, ← howner]
    exact caseByPublicId?_eq h.ids' hc' harchived
  · exact .inr ⟨c', hc', Option.isSome_iff_ne_none.mpr harchived⟩

/-- A published sync of the case. -/
theorem requiredSync_kept (h : CaseKept caseId s s') {syncPublicId : Uuid} {sync : Nat × SyncRow}
    (hsync : s.requiredSync caseId syncPublicId = .ok sync) (hended : sync.2.state.active = false) :
    s'.requiredSync caseId syncPublicId = .ok sync := by
  obtain ⟨hstored, hcase, hid⟩ := (sync?_eq_some h.ids).mp (requiredSync_eq_ok.mp hsync)
  exact requiredSync_eq_ok.mpr ((sync?_eq_some h.ids').mpr
    ⟨(h.sealed sync.1 sync.2 hstored hcase hended).row, hcase, hid⟩)

variable {sha : Sha256}

/-- What has a receipt was published. -/
theorem ended_of_receipt {sync : Nat × SyncRow} {receipt : Addressed ReceiptDocument}
    (h : continuationReceipt sha s caseId casePublicId sync = .ok receipt) :
    sync.2.state.active = false := by
  unfold continuationReceipt at h
  obtain ⟨_, -, h⟩ := bind_eq_ok.mp h
  obtain ⟨_, -, h⟩ := bind_eq_ok.mp h
  obtain ⟨_, husable, -⟩ := bind_eq_ok.mp h
  exact ended_of_usable (check_eq_ok.mp husable)

theorem ended_of_outcome {sync : Nat × SyncRow} {outcome : Addressed OutcomeDocument}
    (h : backfillOutcome sha s caseId casePublicId sync = .ok outcome) :
    sync.2.state.active = false := by
  unfold backfillOutcome at h
  obtain ⟨_, -, h⟩ := bind_eq_ok.mp h
  obtain ⟨_, -, h⟩ := bind_eq_ok.mp h
  obtain ⟨_, husable, -⟩ := bind_eq_ok.mp h
  exact ended_of_usable (check_eq_ok.mp husable)

end Later

/-- From the moment a receipt or an outcome can be read, whatever the
sessions commit while its case is not deleted, the same read returns the
same document under the same id; a case that is archived then has none. -/
theorem receipts_and_outcomes_immutable {sha : Sha256} {world world' : World (caseSystem sha)}
    (reached : Reaches start world) {owner : Text} {casePublicId : Uuid} {caseId : Nat}
    {c : CaseRow} (hcase : world.state.requiredCase owner casePublicId = .ok (caseId, c))
    (rest : Run (KeepsCase caseId) world world') (syncPublicId : Uuid) :
    (∃ c', world'.state.cases.get? caseId = some c' ∧ c'.archivedAt.isSome = true) ∨
      (∀ receipt, getCheckpointContinuationReceipt sha world.state owner casePublicId
          syncPublicId = .ok receipt →
        getCheckpointContinuationReceipt sha world'.state owner casePublicId syncPublicId =
          .ok receipt) ∧
      ∀ outcome, getBackfillOutcome sha world.state owner casePublicId syncPublicId =
          .ok outcome →
        getBackfillOutcome sha world'.state owner casePublicId syncPublicId = .ok outcome := by
  have kept := caseKept_of_run reached rest
  rcases requiredCase_kept kept hcase with ⟨c', hcase', hid⟩ | harchived
  · refine .inr ⟨fun receipt hreceipt => ?_, fun outcome houtcome => ?_⟩
    · obtain ⟨found, hfound, hreceipt⟩ := bind_eq_ok.mp hreceipt
      cases Except.ok.inj (hcase.symm.trans hfound)
      obtain ⟨sync, hsync, hreceipt⟩ := bind_eq_ok.mp hreceipt
      obtain ⟨hstored, hof, -⟩ := (sync?_eq_some kept.ids).mp (requiredSync_eq_ok.mp hsync)
      refine bind_eq_ok.mpr ⟨(caseId, c'), hcase', ?_⟩
      refine bind_eq_ok.mpr ⟨sync, requiredSync_kept kept hsync (ended_of_receipt hreceipt), ?_⟩
      rw [hid]
      exact continuationReceipt_kept kept hstored hof hreceipt
    · obtain ⟨found, hfound, houtcome⟩ := bind_eq_ok.mp houtcome
      cases Except.ok.inj (hcase.symm.trans hfound)
      obtain ⟨sync, hsync, houtcome⟩ := bind_eq_ok.mp houtcome
      obtain ⟨hstored, hof, -⟩ := (sync?_eq_some kept.ids).mp (requiredSync_eq_ok.mp hsync)
      refine bind_eq_ok.mpr ⟨(caseId, c'), hcase', ?_⟩
      refine bind_eq_ok.mpr ⟨sync, requiredSync_kept kept hsync (ended_of_outcome houtcome), ?_⟩
      rw [hid]
      exact backfillOutcome_kept kept hstored hof houtcome
  · exact .inl harchived

/-! ## A scheduled page -/

/-- The last digit of a cutoff. -/
def cutoffDigit (cutoff : Option HexDigest) : Char :=
  ((cutoff.bind fun digest => digest.text.getLast?).filter isLowerHexDigit).getD '0'

theorem isLowerHexDigit_cutoffDigit (cutoff : Option HexDigest) :
    isLowerHexDigit (cutoffDigit cutoff) = true := by
  unfold cutoffDigit
  cases h : (cutoff.bind fun digest => digest.text.getLast?).filter isLowerHexDigit with
  | none => rfl
  | some c => exact (Option.filter_eq_some_iff.mp h).2

def cutoffDigest (c : Char) (cutoff : Option HexDigest)
    (h : isLowerHexDigit c = true := by exact (rfl : true = true)) : HexDigest :=
  ⟨List.replicate 32 c ++ List.replicate 32 (cutoffDigit cutoff), by simp,
    by simp [h, isLowerHexDigit_cutoffDigit]⟩

/-- Another hash for another cutoff, and for the outcome of another sync. -/
def journalSha : Sha256
  | .plan document => cutoffDigest '5' document.checkpointCutoff
  | .progress document => cutoffDigest '6' document.checkpointCutoff
  | .schedule document => cutoffDigest '7' document.checkpointCutoff
  | .outcome document => syncDigest '9' document.syncPublicId
  | document => syncSha document

def journalSession (sid : Nat) (entry : Entry) (seconds : Nat) (publicId : Uuid) (steps : Nat) :
    List (Move (caseSystem journalSha)) :=
  .launch entry :: List.replicate steps (.run sid (pagedAnswers sampleProvider seconds publicId))

/-- A case, a page, and a second page that a schedule selected. -/
def sampleScheduled : List (Move (caseSystem journalSha)) :=
  journalSession 0
    (.createOrOpenCase ⟨sampleOwner, .mainnet, .live, "0:0a".toList, none, none⟩)
    2000 (sampleUuid '0') 20 ++
  journalSession 1
    (.enqueueSync sampleOwner (sampleUuid '0') sampleSyncRequest "sync".toList)
    2001 (sampleUuid '1') 30 ++
  journalSession 2 .runSyncWorker 2002 (sampleUuid '2') 60 ++
  journalSession 3
    (.enqueueBackfillSchedule sampleOwner (sampleUuid '0')
      (cutoffDigest '7' (some (syncDigest '3' (sampleUuid '1')))) ⟨1, one_le_pageBudget, pageBudget_le_ten⟩
      "page".toList) 2003 (sampleUuid '3') 60 ++
  journalSession 4 .runSyncWorker 2004 (sampleUuid '4') 60

/-- A later page of the same stream. -/
def sampleNextPage : List (Move (caseSystem journalSha)) :=
  journalSession 5
    (.enqueueCheckpointResume sampleOwner (sampleUuid '0') (syncDigest '3' (sampleUuid '3'))
      "next".toList) 2005 (sampleUuid '5') 30 ++
  journalSession 6 .runSyncWorker 2006 (sampleUuid '6') 60

def journalWorld (moves : List (Move (caseSystem journalSha))) : World (caseSystem journalSha) :=
  moves.foldl World.step start

theorem journalWorld_reached (moves : List (Move (caseSystem journalSha))) :
    Reaches start (journalWorld moves) :=
  Session.reaches_foldl moves start

/-- The later page is a later state of the case. -/
theorem journalWorld_later : Run (KeepsCase 1) (journalWorld sampleScheduled)
    (journalWorld (sampleScheduled ++ sampleNextPage)) := by
  unfold journalWorld
  rw [List.foldl_append]
  exact Session.run_foldl (fun _ (w : Write) _ => w.keepsCases)
    (fun sid w s h => KeepsCase.of_keepsCases h _ sid s) _ _ (by decide +kernel)

/-- The sample case is open. -/
theorem journalWorld_case : ∃ c, (journalWorld sampleScheduled).state.requiredCase sampleOwner
    (sampleUuid '0') = .ok (1, c) := by
  have hcase : ((journalWorld sampleScheduled).state.requiredCase sampleOwner
      (sampleUuid '0')).toOption.map (·.1) = some 1 := by decide +kernel
  obtain ⟨⟨id, c⟩, hfound, rfl⟩ := Option.map_eq_some_iff.mp hcase
  exact ⟨c, eq_ok_of_toOption hfound⟩

/-- The receipt and the outcome of the second page, after a third one. -/
theorem receipts_and_outcomes_immutable_sample :
    ∃ receipt outcome,
      getCheckpointContinuationReceipt journalSha (journalWorld sampleScheduled).state sampleOwner
        (sampleUuid '0') (sampleUuid '3') = .ok receipt ∧
      getBackfillOutcome journalSha (journalWorld sampleScheduled).state sampleOwner
        (sampleUuid '0') (sampleUuid '3') = .ok outcome ∧
      (journalWorld (sampleScheduled ++ sampleNextPage)).state.checkpoints.rows.length = 3 ∧
      ((∃ c, (journalWorld (sampleScheduled ++ sampleNextPage)).state.cases.get? 1 = some c ∧
          c.archivedAt.isSome = true) ∨
        getCheckpointContinuationReceipt journalSha
          (journalWorld (sampleScheduled ++ sampleNextPage)).state sampleOwner (sampleUuid '0')
            (sampleUuid '3') = .ok receipt ∧
        getBackfillOutcome journalSha
          (journalWorld (sampleScheduled ++ sampleNextPage)).state sampleOwner (sampleUuid '0')
            (sampleUuid '3') = .ok outcome) := by
  have hread : (getCheckpointContinuationReceipt journalSha (journalWorld sampleScheduled).state
      sampleOwner (sampleUuid '0') (sampleUuid '3')).isOk = true := by decide +kernel
  have houtcome : (getBackfillOutcome journalSha (journalWorld sampleScheduled).state
      sampleOwner (sampleUuid '0') (sampleUuid '3')).isOk = true := by decide +kernel
  obtain ⟨receipt, hreceipt⟩ := exists_of_isOk hread
  obtain ⟨outcome, houtcome⟩ := exists_of_isOk houtcome
  obtain ⟨c, hcase⟩ := journalWorld_case
  refine ⟨receipt, outcome, hreceipt, houtcome, by decide +kernel, ?_⟩
  have immutable := receipts_and_outcomes_immutable (journalWorld_reached sampleScheduled) hcase
    journalWorld_later (sampleUuid '3')
  exact immutable.imp_right fun h => ⟨h.1 receipt hreceipt, h.2 outcome houtcome⟩

end TonTracker
