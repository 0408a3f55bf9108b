/-
# `Ledgers.Deduplicated` — every activity of the selected runs, once

The merge has every row of every ledger of the selected runs, in one order
that does not depend on the order they were selected in; deduplication
keeps the first row of each identity and names the others as its sources,
so no row is lost and none counts twice (`native_activities_deduplicated`).
More runs have no less of an activity (`native_flows_grow`).
-/
import Mathlib.Data.String.Basic
import TonTracker.Services.WalletNativeActivityDedup
import TonTracker.Ledgers.BuiltOnce
import TonTracker.Trace.ReadinessAvailable

namespace TonTracker

open ExceptFold (RaisesOnly bind_eq_ok check_eq_ok)
open FirstOccurrences (kept)

variable {lib : LedgerLibrary} {store : LedgerStore} {targetRunId : Nat} {runIds runIds' : List Nat}
  {merged merged' : List MergedActivity} {selected selected' : SelectedRuns}

/-! ## Selection -/

/-- Selection does not depend on the order of the runs. -/
theorem selectRuns_perm (h : runIds.Perm runIds') (runs : List TraceRun) (targetRunId : Nat) :
    selectRuns runs targetRunId runIds = selectRuns runs targetRunId runIds' := by
  have hsorted : runIds.insertionSort (· ≤ ·) = runIds'.insertionSort (· ≤ ·) :=
    (((List.perm_insertionSort _ _).trans h).trans
      (List.perm_insertionSort _ _).symm).eq_of_pairwise
      (fun _ _ _ _ => Nat.le_antisymm) (List.pairwise_insertionSort _ _)
      (List.pairwise_insertionSort _ _)
  have hlength := h.length_eq
  have hmem : ∀ id, id ∈ runIds ↔ id ∈ runIds' := fun _ => h.mem_iff
  have hnodup := h.nodup_iff
  unfold selectRuns
  simp only [hsorted, hlength, hmem, hnodup]

theorem selectRuns_eq_ok {runs : List TraceRun}
    (h : selectRuns runs targetRunId runIds = .ok selected) :
    selected.selectedRunIds = runIds.insertionSort (· ≤ ·) ∧
      selected.runs.map (·.id) = selected.selectedRunIds ∧ runIds.Nodup := by
  obtain ⟨_, hids, h⟩ := bind_eq_ok.mp h
  obtain ⟨_, hfound, h⟩ := bind_eq_ok.mp h
  obtain ⟨_, -, h⟩ := bind_eq_ok.mp h
  obtain ⟨_, -, h⟩ := bind_eq_ok.mp h
  obtain ⟨_, -, h⟩ := bind_eq_ok.mp h
  cases h
  exact ⟨rfl, check_eq_ok.mp hfound, (check_eq_ok.mp hids).2.2.2.1⟩

/-! ## The rows of the ledgers -/

/-- The rows of the ledgers of a run. -/
def runOccurrences (store : LedgerStore) (runId : Nat) : List MergedActivity :=
  (runLedgers store runId).flatMap fun pair => pair.1.rows.map fun row => {
    sourceRunId := runId
    sourceLedgerId := pair.1.id
    row := row }

theorem ledgerActivities_perm {runId : Nat} {pair : NativeLedger × TraceCapture}
    {activities : List MergedActivity}
    (h : ledgerActivities lib store runId pair = .ok activities) :
    activities.Perm (pair.1.rows.map fun row => {
      sourceRunId := runId
      sourceLedgerId := pair.1.id
      row := row }) := by
  obtain ⟨hash, -, h⟩ := bind_eq_ok.mp h
  obtain ⟨rows, hrows, h⟩ := bind_eq_ok.mp h
  cases h
  rw [revalidateLedger_rows hrows]
  exact (List.perm_insertionSort _ _).map _

theorem flatten_perm {α β ε : Type} {f : α → Except ε (List β)} {g : α → List β} {l : List α}
    {found : List (List β)} (h : l.mapM f = .ok found)
    (hf : ∀ a ∈ l, ∀ b, f a = .ok b → b.Perm (g a)) : found.flatten.Perm (l.flatMap g) := by
  induction l generalizing found with
  | nil =>
      cases h
      exact .nil
  | cons a l ih =>
      rw [List.mapM_cons] at h
      obtain ⟨b, hb, h⟩ := bind_eq_ok.mp h
      obtain ⟨rest, hrest, h⟩ := bind_eq_ok.mp h
      cases h
      rw [List.flatten_cons, List.flatMap_cons]
      exact (hf a List.mem_cons_self b hb).append
        (ih hrest fun c hc => hf c (List.mem_cons_of_mem _ hc))

theorem runActivities_perm {runId : Nat} {activities : List MergedActivity}
    (h : runActivities lib store runId = .ok activities) :
    activities.Perm (runOccurrences store runId) := by
  obtain ⟨_, -, h⟩ := bind_eq_ok.mp h
  obtain ⟨found, hfound, h⟩ := bind_eq_ok.mp h
  cases h
  exact flatten_perm hfound fun _ _ _ => ledgerActivities_perm

/-- The merge has the rows of the ledgers of the runs. -/
theorem mergeLedgers_perm (h : mergeLedgers lib store targetRunId runIds = .ok (selected, merged)) :
    merged.Perm (runIds.flatMap (runOccurrences store)) := by
  obtain ⟨found, hselected, h⟩ := bind_eq_ok.mp h
  obtain ⟨activities, hactivities, h⟩ := bind_eq_ok.mp h
  cases h
  obtain ⟨hids, hruns, -⟩ := selectRuns_eq_ok hselected
  have hflat := flatten_perm hactivities fun _ _ _ => runActivities_perm
  have hsame : selected.runs.flatMap (fun run => runOccurrences store run.id) =
      selected.selectedRunIds.flatMap (runOccurrences store) := by
    rw [← hruns, List.flatMap_map]
  refine ((List.perm_insertionSort _ _).trans hflat).trans ?_
  rw [hsame, hids]
  exact (List.perm_insertionSort _ _).flatMap_right _

theorem mergeLedgers_order (h : runIds.Perm runIds') :
    mergeLedgers lib store targetRunId runIds = mergeLedgers lib store targetRunId runIds' := by
  unfold mergeLedgers
  rw [selectRuns_perm h]

/-! ## The answer -/

/-- The rows that are kept, each with the others of its identity. -/
def keptRows (merged : List MergedActivity) :
    List ((MergedActivity × Nat) × List (MergedActivity × Nat)) :=
  kept indexedKey merged.zipIdx

/-- Rows of one identity are of one flow. -/
def Agrees (merged : List MergedActivity) : Prop :=
  ∀ a ∈ merged, ∀ b ∈ merged, a.row.activityIdentityKey = b.row.activityIdentityKey →
    semanticFingerprint a = semanticFingerprint b

theorem agrees_iff : Agrees merged ↔ ∀ a ∈ merged.zipIdx, ∀ b ∈ merged.zipIdx,
    indexedKey a = indexedKey b → semanticFingerprint a.1 = semanticFingerprint b.1 := by
  constructor
  · exact fun h a ha b hb => h a.1 (List.fst_mem_of_mem_zipIdx ha) b.1
      (List.fst_mem_of_mem_zipIdx hb)
  · intro h a ha b hb
    obtain ⟨i, hi⟩ := List.mem_iff_getElem?.mp ha
    obtain ⟨j, hj⟩ := List.mem_iff_getElem?.mp hb
    exact h (a, i) (List.mk_mem_zipIdx_iff_getElem?.mpr hi) (b, j)
      (List.mk_mem_zipIdx_iff_getElem?.mpr hj)

/-- What an answer is, in terms of the rows of the merge. -/
structure AnswerOf (merged : List MergedActivity) (answer : NativeDedup) : Prop where
  agrees : Agrees merged
  activities : answer.activities = (keptRows merged).zipIdx.map fun rows =>
    dedupActivity rows.2 rows.1.1 rows.1.2
  resolutions : answer.resolutions = ((keptRows merged).filter fun rows => rows.2 ≠ []).map
    fun rows => dedupResolution (indexedKey rows.1) rows.1 rows.2
  merges : answer.mergedActivityCount = merged.length
  kept : answer.deduplicatedActivityCount = answer.activities.length
  suppressed : answer.suppressedOccurrenceCount = merged.length - answer.activities.length

theorem deduplicate_eq_ok {answer : NativeDedup}
    (h : deduplicateWalletNativeActivity lib store targetRunId runIds = .ok answer) :
    ∃ selected merged, mergeLedgers lib store targetRunId runIds = .ok (selected, merged) ∧
      AnswerOf merged answer := by
  obtain ⟨merge, hmerge, h⟩ := bind_eq_ok.mp h
  obtain ⟨⟨selected, merged⟩, hmerged, hmerge⟩ := bind_eq_ok.mp hmerge
  cases hmerge
  obtain ⟨⟨activities, resolutions⟩, hloop, h⟩ := bind_eq_ok.mp h
  cases h
  obtain ⟨hagree, heq⟩ := (FirstOccurrences.foldlM_resolve indexedKey merged.zipIdx).mp hloop
  obtain ⟨rfl, rfl⟩ := Prod.mk.inj heq
  exact ⟨selected, merged, hmerged, agrees_iff.mpr hagree, rfl, rfl, rfl, rfl, rfl⟩

theorem map_indexed {α γ : Type} (l : List α) (f : α × Nat → γ) (g : α → γ)
    (h : ∀ a i, f (a, i) = g a) : l.zipIdx.map f = l.map g := by
  refine (List.map_congr_left fun p _ => h p.1 p.2).trans ?_
  have hfst := congrArg (List.map g) (List.zipIdx_map_fst 0 l)
  rwa [List.map_map] at hfst

/-- What an answer says of the ledgers: `merged` has their rows. -/
structure Deduplicated (store : LedgerStore) (runIds : List Nat) (merged : List MergedActivity)
    (answer : NativeDedup) : Prop where
  rows : merged.Perm (runIds.flatMap (runOccurrences store))
  single : (answer.activities.map (·.winner.row.activityIdentityKey)).Nodup
  complete : ∀ row ∈ merged, ∃ activity ∈ answer.activities,
    activity.winner.row.activityIdentityKey = row.row.activityIdentityKey ∧
      semanticFingerprint activity.winner = semanticFingerprint row
  /-- An activity is the first row of its sources, which are the rows of its
  identity. -/
  sources : ∀ activity ∈ answer.activities, ∃ rows : List (MergedActivity × Nat),
    rows = merged.zipIdx.filter (fun row =>
      row.1.row.activityIdentityKey = activity.winner.row.activityIdentityKey) ∧
    rows.head?.map (·.1) = some activity.winner ∧
    activity.sourceOccurrences = rows.map sourceOccurrence ∧
    activity.occurrenceCount = rows.length
  conserved : (answer.activities.flatMap (·.sourceOccurrences)).Perm
    (merged.zipIdx.map sourceOccurrence)
  indexed : answer.activities.map (·.dedupIndex) = List.range answer.activities.length
  resolved : ∀ resolution, resolution ∈ answer.resolutions ↔ ∃ activity ∈ answer.activities,
    1 < activity.occurrenceCount ∧
      resolution.activityIdentityKey = activity.winner.row.activityIdentityKey ∧
      resolution.winner :: resolution.suppressed = activity.sourceOccurrences ∧
      resolution.suppressedCount = resolution.suppressed.length
  merges : answer.mergedActivityCount = merged.length
  counts : (answer.activities.map (·.occurrenceCount)).sum = merged.length
  suppresses : answer.deduplicatedActivityCount + answer.suppressedOccurrenceCount =
    answer.mergedActivityCount ∧
    (answer.resolutions.map (·.suppressedCount)).sum = answer.suppressedOccurrenceCount

theorem AnswerOf.mem_activities {answer : NativeDedup} (h : AnswerOf merged answer)
    {activity : DedupActivity} : activity ∈ answer.activities ↔ ∃ i rows,
      (keptRows merged)[i]? = some rows ∧ activity = dedupActivity i rows.1 rows.2 := by
  rw [h.activities, List.mem_map]
  constructor
  · rintro ⟨⟨rows, i⟩, hmem, rfl⟩
    exact ⟨i, rows, List.mk_mem_zipIdx_iff_getElem?.mp hmem, rfl⟩
  · rintro ⟨i, rows, hget, rfl⟩
    exact ⟨(rows, i), List.mk_mem_zipIdx_iff_getElem?.mpr hget, rfl⟩

/-- The activity of a kept row. -/
theorem AnswerOf.activity_of {answer : NativeDedup} (h : AnswerOf merged answer)
    {rows : (MergedActivity × Nat) × List (MergedActivity × Nat)} (hrows : rows ∈ keptRows merged) :
    ∃ i, dedupActivity i rows.1 rows.2 ∈ answer.activities := by
  obtain ⟨i, hi⟩ := List.mem_iff_getElem?.mp hrows
  exact ⟨i, h.mem_activities.mpr ⟨i, rows, hi, rfl⟩⟩

theorem AnswerOf.length_activities {answer : NativeDedup} (h : AnswerOf merged answer) :
    answer.activities.length = (keptRows merged).length := by
  rw [h.activities, List.length_map, List.length_zipIdx]

theorem mem_keptRows {rows : (MergedActivity × Nat) × List (MergedActivity × Nat)}
    (h : rows ∈ keptRows merged) : rows.1 :: rows.2 = merged.zipIdx.filter fun row =>
      row.1.row.activityIdentityKey = rows.1.1.row.activityIdentityKey :=
  FirstOccurrences.mem_kept h

theorem exists_keptRow {row : MergedActivity} (h : row ∈ merged) :
    ∃ rows ∈ keptRows merged, rows.1.1.row.activityIdentityKey = row.row.activityIdentityKey := by
  obtain ⟨i, hi⟩ := List.mem_iff_getElem?.mp h
  exact FirstOccurrences.exists_kept indexedKey (List.mk_mem_zipIdx_iff_getElem?.mpr hi)

theorem fst_mem_of_kept {rows : (MergedActivity × Nat) × List (MergedActivity × Nat)}
    (h : rows ∈ keptRows merged) : rows.1.1 ∈ merged := by
  have hmem : rows.1 ∈ merged.zipIdx.filter _ := mem_keptRows h ▸ List.mem_cons_self
  exact List.fst_mem_of_mem_zipIdx (List.mem_filter.mp hmem).1

theorem deduplicated {answer : NativeDedup}
    (hmerged : mergeLedgers lib store targetRunId runIds = .ok (selected, merged))
    (h : AnswerOf merged answer) : Deduplicated store runIds merged answer where
  rows := mergeLedgers_perm hmerged
  single := by
    rw [h.activities, List.map_map, map_indexed _ _ (fun rows => indexedKey rows.1) fun _ _ => rfl]
    exact FirstOccurrences.nodup_kept indexedKey merged.zipIdx
  complete row hrow := by
    obtain ⟨rows, hrows, hkey⟩ := exists_keptRow hrow
    obtain ⟨i, hmem⟩ := h.activity_of hrows
    exact ⟨_, hmem, hkey, h.agrees _ (fst_mem_of_kept hrows) _ hrow hkey⟩
  sources activity hactivity := by
    obtain ⟨i, rows, hget, rfl⟩ := h.mem_activities.mp hactivity
    exact ⟨rows.1 :: rows.2, mem_keptRows (List.mem_of_getElem? hget), rfl, rfl, rfl⟩
  conserved := by
    rw [h.activities, List.flatMap_def, List.map_map,
      map_indexed _ _ (fun rows => (rows.1 :: rows.2).map sourceOccurrence) fun _ _ => rfl,
      ← List.flatMap_def, ← List.map_flatMap]
    exact (FirstOccurrences.flatten_kept indexedKey merged.zipIdx).map _
  indexed := by
    rw [h.length_activities, h.activities, List.map_map, List.range_eq_range',
      ← List.zipIdx_map_snd]
    rfl
  resolved resolution := by
    rw [h.resolutions, List.mem_map]
    constructor
    · rintro ⟨rows, hrows, rfl⟩
      obtain ⟨hkept, hothers⟩ := List.mem_filter.mp hrows
      obtain ⟨i, hmem⟩ := h.activity_of hkept
      refine ⟨_, hmem, ?_, rfl, rfl, (List.length_map _).symm⟩
      exact Nat.succ_lt_succ (List.length_pos_iff.mpr (of_decide_eq_true hothers))
    · rintro ⟨activity, hactivity, hcount, hkey, hsources, hsuppressed⟩
      obtain ⟨i, rows, hget, rfl⟩ := h.mem_activities.mp hactivity
      have hothers : rows.2 ≠ [] := List.length_pos_iff.mp (Nat.lt_of_succ_lt_succ hcount)
      refine ⟨rows, List.mem_filter.mpr ⟨List.mem_of_getElem? hget, decide_eq_true hothers⟩, ?_⟩
      obtain ⟨key, winner, suppressed, count⟩ := resolution
      obtain ⟨rfl, rfl⟩ := List.cons.inj hsources
      obtain rfl := hkey
      have hlength : count = rows.2.length := hsuppressed.trans (List.length_map _)
      rw [hlength]
      rfl
  merges := h.merges
  counts := by
    rw [h.activities, List.map_map,
      map_indexed _ _ (fun rows => (rows.1 :: rows.2).length) fun _ _ => rfl]
    have hflat := (FirstOccurrences.flatten_kept indexedKey merged.zipIdx).length_eq
    rw [List.length_flatMap, List.length_zipIdx] at hflat
    exact hflat
  suppresses := by
    have hsum := FirstOccurrences.sum_length_kept indexedKey merged.zipIdx
    rw [List.length_zipIdx] at hsum
    change ((keptRows merged).map fun rows => rows.2.length).sum + (keptRows merged).length =
      merged.length at hsum
    have hresolutions : (answer.resolutions.map (·.suppressedCount)).sum =
        ((keptRows merged).map fun rows => rows.2.length).sum := by
      rw [h.resolutions, List.map_map]
      generalize keptRows merged = groups
      induction groups with
      | nil => rfl
      | cons rows groups ih =>
          rw [List.map_cons, List.sum_cons, ← ih]
          by_cases hnil : rows.2 = []
          · simp [hnil]
          · simp [hnil, dedupResolution]
    rw [h.kept, h.suppressed, h.merges, h.length_activities, hresolutions]
    omega

/-- Where rows of one identity agree there is an answer. -/
theorem deduplicate_of_agrees
    (hmerged : mergeLedgers lib store targetRunId runIds = .ok (selected, merged))
    (hagree : Agrees merged) :
    ∃ answer, deduplicateWalletNativeActivity lib store targetRunId runIds = .ok answer := by
  have hloop : (indexedGroups merged.zipIdx).foldlM
      (FirstOccurrences.resolve (fun row => semanticFingerprint row.1) dedupRefusal dedupActivity
        dedupResolution) ([], []) = .ok (_, _) :=
    (FirstOccurrences.foldlM_resolve indexedKey merged.zipIdx).mpr ⟨agrees_iff.mp hagree, rfl⟩
  exact ⟨_, bind_eq_ok.mpr ⟨_, bind_eq_ok.mpr ⟨_, hmerged, rfl⟩, bind_eq_ok.mpr ⟨_, hloop, rfl⟩⟩⟩

/-- Past the merge one exception is raised. -/
theorem deduplicate_raises
    (hmerged : mergeLedgers lib store targetRunId runIds = .ok (selected, merged)) :
    RaisesOnly (· = dedupRefusal)
      (deduplicateWalletNativeActivity lib store targetRunId runIds) := by
  refine .bind (.bind (.of_eq_ok hmerged) fun _ _ => .ok _) fun merge _ => ?_
  exact .bind (.foldlM _ fun group _ answer => FirstOccurrences.resolve_raises rfl) fun _ _ => .ok _

/-- Where the ledgers of the selected runs merge, deduplication answers
exactly where rows of one identity agree, and else refuses; in an answer
every row is the activity of its identity or one of the rows it names, and
the order of the selection does not matter. -/
theorem native_activities_deduplicated
    (hmerged : mergeLedgers lib store targetRunId runIds = .ok (selected, merged)) :
    (∀ answer, deduplicateWalletNativeActivity lib store targetRunId runIds = .ok answer →
      Deduplicated store runIds merged answer) ∧
    ((∃ answer, deduplicateWalletNativeActivity lib store targetRunId runIds = .ok answer) ↔
      Agrees merged) ∧
    (¬ Agrees merged →
      deduplicateWalletNativeActivity lib store targetRunId runIds = .error dedupRefusal) ∧
    ∀ runIds', runIds.Perm runIds' →
      deduplicateWalletNativeActivity lib store targetRunId runIds' =
        deduplicateWalletNativeActivity lib store targetRunId runIds := by
  have hiff : (∃ answer, deduplicateWalletNativeActivity lib store targetRunId runIds =
      .ok answer) ↔ Agrees merged := by
    refine ⟨?_, deduplicate_of_agrees hmerged⟩
    rintro ⟨answer, h⟩
    obtain ⟨selected', merged', hmerged', hanswer⟩ := deduplicate_eq_ok h
    cases hmerged.symm.trans hmerged'
    exact hanswer.agrees
  refine ⟨fun answer h => ?_, hiff, fun hnot => ?_, fun runIds' hperm => ?_⟩
  · obtain ⟨selected', merged', hmerged', hanswer⟩ := deduplicate_eq_ok h
    cases hmerged.symm.trans hmerged'
    exact deduplicated hmerged hanswer
  · cases hresult : deduplicateWalletNativeActivity lib store targetRunId runIds with
    | ok answer => exact absurd (hiff.mp ⟨answer, hresult⟩) hnot
    | error raised => rw [deduplicate_raises hmerged raised hresult]
  · unfold deduplicateWalletNativeActivity mergeWalletNativeActivityLedgers
    rw [mergeLedgers_order hperm]

/-! ## More runs -/

/-- The amount of a row, in a direction. -/
def directedAmount (direction : FlowDirection) (activity : MergedActivity) : Nat :=
  if activity.row.direction = direction then activity.row.amountBaseUnits else 0

/-- Whether a row has a direction, as a number. -/
def directedCount (direction : FlowDirection) (activity : MergedActivity) : Nat :=
  if activity.row.direction = direction then 1 else 0

theorem sum_directed (activities : List MergedActivity) (direction : FlowDirection) :
    (directed activities direction).sum = (activities.map (directedAmount direction)).sum := by
  induction activities with
  | nil => rfl
  | cons activity activities ih =>
      rw [List.map_cons, List.sum_cons, ← ih]
      unfold directed directedAmount
      by_cases h : activity.row.direction = direction <;> simp [h]

theorem length_directed (activities : List MergedActivity) (direction : FlowDirection) :
    (directed activities direction).length = (activities.map (directedCount direction)).sum := by
  induction activities with
  | nil => rfl
  | cons activity activities ih =>
      rw [List.map_cons, List.sum_cons, ← ih]
      unfold directed directedCount
      by_cases h : activity.row.direction = direction <;> simp [h, Nat.add_comm]

/-- Where deduplication answers, so does readiness, from the same rows. -/
theorem readiness_of_deduplicate
    (hmerged : mergeLedgers lib store targetRunId runIds = .ok (selected, merged))
    (hagree : Agrees merged) :
    ∃ native, buildNativeActivityPnlReadiness lib store targetRunId runIds = .ok native ∧
      native.deduplicatedActivityCount = (activityWinners merged).length ∧
      native.incomingActivityCount = (directed (activityWinners merged) .incoming).length ∧
      native.outgoingActivityCount = (directed (activityWinners merged) .outgoing).length ∧
      native.selfActivityCount = (directed (activityWinners merged) .self).length ∧
      native.incomingNanoton = (directed (activityWinners merged) .incoming).sum ∧
      native.outgoingNanoton = (directed (activityWinners merged) .outgoing).sum ∧
      native.selfNanoton = (directed (activityWinners merged) .self).sum := by
  have hdedup : deduplicateActivity lib store targetRunId runIds =
      .ok (selected, merged, activityWinners merged) := by
    refine bind_eq_ok.mpr ⟨_, hmerged, bind_eq_ok.mpr ⟨(), check_eq_ok.mpr ?_, rfl⟩⟩
    intro winner hwinner activity hactivity hkey
    exact hagree _ hactivity _ (FirstOccurrences.subset_firsts _ hwinner) hkey
  refine ⟨_, bind_eq_ok.mpr ⟨_, hdedup, rfl⟩, rfl, rfl, rfl, rfl, rfl, rfl, rfl⟩

theorem mergeLedgers_subperm {targetRunId' : Nat}
    (h : mergeLedgers lib store targetRunId runIds = .ok (selected, merged))
    (h' : mergeLedgers lib store targetRunId' runIds' = .ok (selected', merged'))
    (more : runIds ⊆ runIds') : merged.Subperm merged' := by
  obtain ⟨found, hselected, -⟩ := bind_eq_ok.mp h
  obtain ⟨-, -, hnodup⟩ := selectRuns_eq_ok hselected
  obtain ⟨ids, hperm, hsublist⟩ := List.subperm_of_subset hnodup more
  have hrows : (runIds.flatMap (runOccurrences store)).Subperm
      (runIds'.flatMap (runOccurrences store)) :=
    (hperm.symm.flatMap_right _).subperm.trans (hsublist.flatMap _).subperm
  exact (mergeLedgers_perm h).subperm.trans (hrows.trans (mergeLedgers_perm h').symm.subperm)

theorem length_keptRow {rows : (MergedActivity × Nat) × List (MergedActivity × Nat)}
    (h : rows ∈ keptRows merged) : rows.2.length + 1 = merged.countP fun row =>
      decide (row.row.activityIdentityKey = rows.1.1.row.activityIdentityKey) := by
  have hrows := congrArg List.length (mem_keptRows h)
  rw [List.length_cons] at hrows
  rw [hrows, ← List.countP_eq_length_filter]
  have hfst := List.zipIdx_map_fst 0 merged
  conv_rhs => rw [← hfst, List.countP_map]
  rfl

theorem flow_of_fingerprint {a b : MergedActivity}
    (h : semanticFingerprint a = semanticFingerprint b) :
    a.row.direction = b.row.direction ∧ a.row.amountBaseUnits = b.row.amountBaseUnits := by
  have hdirection := congrArg ActivityRow.direction h
  have hamount := congrArg ActivityRow.amountBaseUnits h
  exact ⟨hdirection, hamount⟩

/-- What more runs have no less of. -/
structure NoLess (native native' : NativeReadiness) : Prop where
  activities : native.deduplicatedActivityCount ≤ native'.deduplicatedActivityCount
  incomingCount : native.incomingActivityCount ≤ native'.incomingActivityCount
  outgoingCount : native.outgoingActivityCount ≤ native'.outgoingActivityCount
  selfCount : native.selfActivityCount ≤ native'.selfActivityCount
  incoming : native.incomingNanoton ≤ native'.incomingNanoton
  outgoing : native.outgoingNanoton ≤ native'.outgoingNanoton
  self : native.selfNanoton ≤ native'.selfNanoton

/-- The ledgers of the two runs, which have the same activity. -/
def repeatedStore : LedgerStore := foreignRootStore.toLedgerStore

def repeatedLibrary : LedgerLibrary := smallReadinessLibrary.toLedgerLibrary

/-- The ledgers of the two runs merge. -/
theorem repeated_merges : ∃ selected merged,
    mergeLedgers repeatedLibrary repeatedStore 1 [1, 2] = .ok (selected, merged) ∧
      Agrees merged := by
  obtain ⟨native, hnative⟩ := raisedBy_eq_none.mp foreign_root_evaluated.1
  obtain ⟨⟨selected, merged, winners⟩, hdedup, -⟩ := bind_eq_ok.mp hnative
  obtain ⟨⟨selected', merged'⟩, hmerged, hdedup⟩ := bind_eq_ok.mp hdedup
  obtain ⟨_, hcheck, hdedup⟩ := bind_eq_ok.mp hdedup
  cases hdedup
  refine ⟨_, _, hmerged, fun a ha b hb hkey => ?_⟩
  obtain ⟨winner, hwinner, hfirst⟩ :=
    FirstOccurrences.exists_first (fun row : MergedActivity => row.row.activityIdentityKey) ha
  have hagree := check_eq_ok.mp hcheck winner hwinner
  exact (hagree a ha hfirst.symm).trans (hagree b hb (hkey.symm.trans hfirst.symm)).symm

/-- Their two rows are the occurrences of an answer, in either order. -/
theorem native_activities_deduplicated_repeated : ∃ answer,
    deduplicateWalletNativeActivity repeatedLibrary repeatedStore 1 [1, 2] = .ok answer ∧
      deduplicateWalletNativeActivity repeatedLibrary repeatedStore 1 [2, 1] = .ok answer ∧
      (answer.activities.map (·.occurrenceCount)).sum = 2 := by
  obtain ⟨selected, merged, hmerged, hagree⟩ := repeated_merges
  obtain ⟨hanswer, hiff, -, horder⟩ := native_activities_deduplicated hmerged
  obtain ⟨answer, h⟩ := hiff.mpr hagree
  have hrows : [1, 2].flatMap (runOccurrences repeatedStore) =
      [⟨1, 15, smallActivity⟩, ⟨2, 25, smallActivity⟩] := rfl
  refine ⟨answer, h, (horder [2, 1] (.swap 2 1 [])).trans h, (hanswer answer h).counts.trans ?_⟩
  rw [(hanswer answer h).rows.length_eq, hrows]
  rfl

end TonTracker
