/-
# `Histories.CoverageTimelines` — which outcome histories have a timeline

The items of a followed history agree with themselves: every item adds the
pages it says, and no sync is shown twice.  What the timeline asks for
besides is a condition on neighbouring items (`Chartable`), and one of its
parts the store does not keep: a run that starts a stream anew drops the
pages that earlier outcomes counted.
-/
import TonTracker.Client.CoverageTimeline
import TonTracker.Histories.ReadOnce

namespace TonTracker

open Session (World Run Move Reaches)
open ExceptFold (bind_eq_ok check_eq_ok eq_ok_of_toOption)

/-! ## The loop over the items -/

/-- What every verified item satisfies. -/
structure OutcomeHistoryItem.Sound (item : OutcomeHistoryItem) : Prop where
  delta : (item.afterContinuationPagesSucceeded : Int) - item.beforeContinuationPagesSucceeded =
    item.outcome.document.transition.pagesSucceededDelta
  advances : 0 ≤ item.outcome.document.transition.pagesSucceededDelta

theorem finiteInteger_eq_ok {value : Int} {label : String} {v : Int} :
    finiteInteger value label = .ok v ↔ (0 ≤ value ∧ value ≤ maxSafeInteger) ∧ v = value := by
  unfold finiteInteger
  split
  case isTrue h => exact ⟨fun hv => ⟨h, (Except.ok.inj hv).symm⟩, fun hv => congrArg _ hv.2.symm⟩
  case isFalse h => exact iff_of_false (fun hv => nomatch hv) fun hv => h hv.1

/-- One round of the loop. -/
theorem validateOutcome_eq_ok {seen next : SeenOutcomes} {item : OutcomeHistoryItem} {index : Nat}
    (sound : item.Sound) : validateOutcome seen (item, index) = .ok next ↔
      (item.outcome.publicId ∉ seen.outcomeIds ∧
        item.outcome.document.syncPublicId ∉ seen.syncIds ∧
        seen.previousNewestTimestamp.all
          (fun previous => decide (timestamp item.completedAt ≤ previous)) = true) ∧
      (item.afterContinuationPagesSucceeded : Int) ≤ maxSafeInteger ∧
      next = ⟨item.outcome.publicId :: seen.outcomeIds,
        item.outcome.document.syncPublicId :: seen.syncIds, some (timestamp item.completedAt)⟩ := by
  have hdelta := sound.delta
  have hadvances := sound.advances
  unfold validateOutcome
  dsimp only
  constructor
  · intro h
    obtain ⟨_, hnew, h⟩ := bind_eq_ok.mp h
    obtain ⟨before, -, h⟩ := bind_eq_ok.mp h
    obtain ⟨after, hafter, h⟩ := bind_eq_ok.mp h
    obtain ⟨delta, -, h⟩ := bind_eq_ok.mp h
    obtain ⟨_, -, h⟩ := bind_eq_ok.mp h
    cases h
    exact ⟨check_eq_ok.mp hnew, (finiteInteger_eq_ok.mp hafter).1.2, rfl⟩
  · rintro ⟨hnew, hsafe, rfl⟩
    refine bind_eq_ok.mpr ⟨(), check_eq_ok.mpr hnew, ?_⟩
    refine bind_eq_ok.mpr ⟨_, finiteInteger_eq_ok.mpr ⟨⟨by omega, by omega⟩, rfl⟩, ?_⟩
    refine bind_eq_ok.mpr ⟨_, finiteInteger_eq_ok.mpr ⟨⟨by omega, hsafe⟩, rfl⟩, ?_⟩
    refine bind_eq_ok.mpr ⟨_, finiteInteger_eq_ok.mpr ⟨⟨by omega, by omega⟩, rfl⟩, ?_⟩
    exact bind_eq_ok.mpr ⟨(), check_eq_ok.mpr hdelta, rfl⟩

/-- What the loop accepts of items behind those it has seen. -/
structure Listable (seen : SeenOutcomes) (items : List OutcomeHistoryItem) : Prop where
  outcomes : (items.map (·.outcome.publicId) ++ seen.outcomeIds).Nodup
  syncs : (items.map (·.outcome.document.syncPublicId) ++ seen.syncIds).Nodup
  safe : ∀ item ∈ items, (item.afterContinuationPagesSucceeded : Int) ≤ maxSafeInteger
  ordered : (seen.previousNewestTimestamp.toList ++
    items.map fun item => timestamp item.completedAt).IsChain fun newer older => older ≤ newer

theorem nodup_cons_iff {α : Type} {a : α} {l l' : List α} :
    ((a :: l) ++ l').Nodup ↔ a ∉ l' ∧ (l ++ a :: l').Nodup := by
  rw [List.cons_append, List.nodup_middle]
  refine ⟨fun h => ⟨fun ha => ?_, h⟩, And.right⟩
  exact (List.nodup_cons.mp h).1 (List.mem_append_right _ ha)

theorem listable_cons {seen : SeenOutcomes} {item : OutcomeHistoryItem}
    {items : List OutcomeHistoryItem} : Listable seen (item :: items) ↔
      (item.outcome.publicId ∉ seen.outcomeIds ∧
        item.outcome.document.syncPublicId ∉ seen.syncIds ∧
        seen.previousNewestTimestamp.all
          (fun previous => decide (timestamp item.completedAt ≤ previous)) = true) ∧
      (item.afterContinuationPagesSucceeded : Int) ≤ maxSafeInteger ∧
      Listable ⟨item.outcome.publicId :: seen.outcomeIds,
        item.outcome.document.syncPublicId :: seen.syncIds,
        some (timestamp item.completedAt)⟩ items := by
  have chain : (seen.previousNewestTimestamp.toList ++ timestamp item.completedAt ::
        items.map fun item => timestamp item.completedAt).IsChain (fun newer older =>
          older ≤ newer) ↔
      seen.previousNewestTimestamp.all
          (fun previous => decide (timestamp item.completedAt ≤ previous)) = true ∧
        (timestamp item.completedAt ::
          items.map fun item => timestamp item.completedAt).IsChain fun newer older =>
            older ≤ newer := by
    cases seen.previousNewestTimestamp with
    | none => simp
    | some previous => simp [List.isChain_cons_cons]
  constructor
  · rintro ⟨outcomes, syncs, safe, ordered⟩
    obtain ⟨hid, outcomes⟩ := nodup_cons_iff.mp outcomes
    obtain ⟨hsync, syncs⟩ := nodup_cons_iff.mp syncs
    obtain ⟨hprevious, ordered⟩ := chain.mp ordered
    exact ⟨⟨hid, hsync, hprevious⟩, safe item List.mem_cons_self, outcomes, syncs,
      fun other hother => safe other (List.mem_cons_of_mem _ hother), ordered⟩
  · rintro ⟨⟨hid, hsync, hprevious⟩, hsafe, outcomes, syncs, safe, ordered⟩
    refine ⟨nodup_cons_iff.mpr ⟨hid, outcomes⟩,
      nodup_cons_iff.mpr ⟨hsync, syncs⟩, fun other hother => ?_,
      chain.mpr ⟨hprevious, ordered⟩⟩
    rcases List.mem_cons.mp hother with rfl | hmem
    · exact hsafe
    · exact safe other hmem

/-- The loop accepts exactly such items. -/
theorem validated_iff {items : List OutcomeHistoryItem} (sound : ∀ item ∈ items, item.Sound) :
    ∀ {seen : SeenOutcomes} {index : Nat}, seen.outcomeIds.Nodup → seen.syncIds.Nodup →
      ((∃ done, (items.zipIdx index).foldlM validateOutcome seen = .ok done) ↔
        Listable seen items) := by
  induction items with
  | nil =>
      intro seen index houtcomes hsyncs
      refine iff_of_true ⟨seen, rfl⟩ ⟨houtcomes, hsyncs, fun _ h => (nomatch h), ?_⟩
      cases seen.previousNewestTimestamp <;> simp
  | cons item items ih =>
      intro seen index houtcomes hsyncs
      rw [listable_cons, List.zipIdx_cons, List.foldlM_cons]
      have rest : ∀ other ∈ items, other.Sound :=
        fun other hother => sound other (List.mem_cons_of_mem _ hother)
      constructor
      · rintro ⟨done, hdone⟩
        obtain ⟨next, hnext, hdone⟩ := bind_eq_ok.mp hdone
        obtain ⟨hnew, hsafe, rfl⟩ :=
          (validateOutcome_eq_ok (sound item List.mem_cons_self)).mp hnext
        exact ⟨hnew, hsafe, (ih rest (List.nodup_cons.mpr ⟨hnew.1, houtcomes⟩)
          (List.nodup_cons.mpr ⟨hnew.2.1, hsyncs⟩)).mp ⟨done, hdone⟩⟩
      · rintro ⟨hnew, hsafe, hrest⟩
        obtain ⟨done, hdone⟩ := (ih rest (List.nodup_cons.mpr ⟨hnew.1, houtcomes⟩)
          (List.nodup_cons.mpr ⟨hnew.2.1, hsyncs⟩)).mpr hrest
        exact ⟨done, bind_eq_ok.mpr ⟨_, (validateOutcome_eq_ok
          (sound item List.mem_cons_self)).mpr ⟨hnew, hsafe, rfl⟩, hdone⟩⟩

/-! ## The points -/

/-- No item starts with fewer pages than the older one before it ended
with. -/
def Continued (older newer : OutcomeHistoryItem) : Prop :=
  older.afterContinuationPagesSucceeded ≤ newer.beforeContinuationPagesSucceeded

/-- A point of an item. -/
structure PointOf (item : OutcomeHistoryItem) (point : CoveragePoint) : Prop where
  outcome : point.outcomePublicId = item.outcome.publicId
  sync : point.syncPublicId = item.outcome.document.syncPublicId
  completed : point.completedAt = item.completedAt
  stream : point.streamKey = item.outcome.document.transition.streamKey
  state : point.outcome = item.outcome.document.outcome
  before : point.beforeContinuationPagesSucceeded = item.beforeContinuationPagesSucceeded
  after : point.afterContinuationPagesSucceeded = item.afterContinuationPagesSucceeded
  delta : point.pagesSucceededDelta = item.outcome.document.transition.pagesSucceededDelta
  frontier : point.frontierChanged = item.frontierChanged

/-- The pages between two points are the ones that no outcome represents. -/
def Represented (older newer : CoveragePoint) : Prop :=
  older.afterContinuationPagesSucceeded + newer.unrepresentedPageDelta =
    newer.beforeContinuationPagesSucceeded

/-- The points of items that continue from a count. -/
structure Charted (index : Nat) (previousAfter : Option Int) (items : List OutcomeHistoryItem)
    (points : List CoveragePoint) : Prop where
  items : List.Forall₂ PointOf items points
  sequence : points.map (·.sequence) = List.range' (index + 1) points.length
  first : ∀ previous, previousAfter = some previous → ∀ point, points.head? = some point →
    previous + point.unrepresentedPageDelta = point.beforeContinuationPagesSucceeded
  between : points.IsChain Represented

theorem coveragePoints_eq_ok : ∀ {items : List OutcomeHistoryItem} {index : Nat}
    {previousAfter : Option Int} {points : List CoveragePoint},
    coveragePoints index previousAfter items = .ok points →
    items.IsChain Continued ∧
      (∀ previous, previousAfter = some previous → ∀ item, items.head? = some item →
        previous ≤ item.beforeContinuationPagesSucceeded) ∧
      Charted index previousAfter items points := by
  intro items
  induction items with
  | nil =>
      intro index previousAfter points h
      cases h
      exact ⟨.nil, fun _ _ _ h => (nomatch h), .nil, rfl, fun _ _ _ h => (nomatch h), .nil⟩
  | cons item items ih =>
      intro index previousAfter points h
      unfold coveragePoints at h
      obtain ⟨_, hprevious, h⟩ := bind_eq_ok.mp h
      obtain ⟨rest, hrest, h⟩ := bind_eq_ok.mp h
      cases h
      obtain ⟨chain, hnext, charted⟩ := ih hrest
      have starts : ∀ previous, previousAfter = some previous →
          previous ≤ item.beforeContinuationPagesSucceeded := by
        rintro previous rfl
        exact of_decide_eq_true (check_eq_ok.mp hprevious)
      refine ⟨?_, fun previous hp other hother => ?_, ?_, ?_, ?_, ?_⟩
      · cases items with
        | nil => exact .singleton _
        | cons newer newest =>
            exact .cons_cons (Int.ofNat_le.mp (hnext _ rfl newer rfl)) chain
      · cases hother
        exact starts previous hp
      · exact .cons ⟨rfl, rfl, rfl, rfl, rfl, rfl, rfl, rfl, rfl⟩ charted.items
      · rw [List.map_cons, charted.sequence, List.length_cons, List.range'_succ]
        rfl
      · rintro previous rfl point hpoint
        cases hpoint
        change previous + ((item.beforeContinuationPagesSucceeded : Int) - previous) =
          item.beforeContinuationPagesSucceeded
        omega
      · cases rest with
        | nil => exact .singleton _
        | cons newer newest => exact .cons_cons (charted.first _ rfl newer rfl) charted.between

theorem exists_coveragePoints : ∀ {items : List OutcomeHistoryItem} {index : Nat}
    {previousAfter : Option Int}, items.IsChain Continued →
    (∀ previous, previousAfter = some previous → ∀ item, items.head? = some item →
      previous ≤ item.beforeContinuationPagesSucceeded) →
    ∃ points, coveragePoints index previousAfter items = .ok points := by
  intro items
  induction items with
  | nil => exact fun _ _ => ⟨[], rfl⟩
  | cons item items ih =>
      intro index previousAfter chain hprevious
      have rest : items.IsChain Continued := chain.tail
      obtain ⟨points, hpoints⟩ := @ih (index + 1) (some item.afterContinuationPagesSucceeded) rest
        fun previous hp newer hnewer => by
          cases hp
          cases items with
          | nil => cases hnewer
          | cons other others =>
              cases hnewer
              exact Int.ofNat_le.mpr (List.isChain_cons_cons.mp chain).1
      unfold coveragePoints
      refine ⟨_, bind_eq_ok.mpr ⟨(), check_eq_ok.mpr ?_, bind_eq_ok.mpr ⟨points, hpoints, rfl⟩⟩⟩
      cases previousAfter with
      | none => rfl
      | some previous => exact decide_eq_true (hprevious previous rfl item rfl)

/-! ## The timeline of a source -/

/-- What the timeline asks of items, the newest first. -/
structure Chartable (source : CoverageSource) : Prop where
  safe : source.totalOutcomes ≤ maxSafeInteger ∧
    ∀ item ∈ source.items, (item.afterContinuationPagesSucceeded : Int) ≤ maxSafeInteger
  distinct : (source.items.map (·.outcome.publicId)).Nodup
  ordered : source.items.IsChain fun newer older =>
    timestamp older.completedAt ≤ timestamp newer.completedAt
  continued : source.items.IsChain fun newer older => Continued older newer

/-- What a followed history gives. -/
structure CoverageSource.Sound (source : CoverageSource) : Prop where
  items : ∀ item ∈ source.items, item.Sound
  syncs : (source.items.map (·.outcome.document.syncPublicId)).Nodup
  window : (source.items.length : Int) ≤ source.totalOutcomes ∧
    (source.syncCutoffPublicId.isNone = decide (source.totalOutcomes = 0)) ∧
    source.hasMore = decide ((source.items.length : Int) < source.totalOutcomes)

/-- The timeline of a source: its points are the items, oldest first. -/
structure TimelineOf (source : CoverageSource) (timeline : CoverageTimeline) : Prop where
  points : List.Forall₂ PointOf source.items.reverse timeline.points
  sequence : timeline.points.map (·.sequence) = List.range' 1 source.items.length
  between : timeline.points.IsChain Represented
  added : timeline.summary.successfulPagesAdded =
    (source.items.map (·.outcome.document.transition.pagesSucceededDelta)).sum

theorem validateSource_eq_ok {source : CoverageSource} {u : Unit} (sound : source.Sound) :
    validateSource source = .ok u ↔ source.totalOutcomes ≤ maxSafeInteger := by
  unfold validateSource
  constructor
  · intro h
    obtain ⟨total, htotal, -⟩ := bind_eq_ok.mp h
    exact (finiteInteger_eq_ok.mp htotal).1.2
  · intro h
    have := sound.window.1
    exact bind_eq_ok.mpr ⟨_, finiteInteger_eq_ok.mpr ⟨⟨by omega, h⟩, rfl⟩,
      check_eq_ok.mpr sound.window⟩

theorem listable_iff {source : CoverageSource} (sound : source.Sound) :
    Listable ⟨[], [], none⟩ source.items ↔
      (∀ item ∈ source.items, (item.afterContinuationPagesSucceeded : Int) ≤ maxSafeInteger) ∧
        (source.items.map (·.outcome.publicId)).Nodup ∧
        source.items.IsChain fun newer older =>
          timestamp older.completedAt ≤ timestamp newer.completedAt := by
  constructor
  · rintro ⟨outcomes, -, safe, ordered⟩
    rw [List.append_nil] at outcomes
    exact ⟨safe, outcomes, (List.isChain_map _).mp ordered⟩
  · rintro ⟨safe, outcomes, ordered⟩
    refine ⟨?_, ?_, safe, (List.isChain_map _).mpr ordered⟩
    · rw [List.append_nil]
      exact outcomes
    · rw [List.append_nil]
      exact sound.syncs

theorem map_of_forall₂ {α β γ : Type} {f : α → γ} {g : β → γ} {l : List α} {l' : List β}
    (h : List.Forall₂ (fun a b => g b = f a) l l') : l'.map g = l.map f := by
  induction h with
  | nil => rfl
  | cons hab _ ih => rw [List.map_cons, List.map_cons, ih, hab]

/-- A sound source has a timeline exactly where it is chartable, and the
timeline is that of its items. -/
theorem buildCoverageTimeline_iff {source : CoverageSource} (sound : source.Sound) :
    ((∃ timeline, buildCoverageTimeline source = .ok timeline) ↔ Chartable source) ∧
      ∀ timeline, buildCoverageTimeline source = .ok timeline → TimelineOf source timeline := by
  have loop := @validated_iff source.items sound.items ⟨[], [], none⟩ 0 .nil .nil
  rw [listable_iff sound] at loop
  refine ⟨⟨?_, ?_⟩, ?_⟩
  · rintro ⟨timeline, h⟩
    unfold buildCoverageTimeline at h
    obtain ⟨_, hsource, h⟩ := bind_eq_ok.mp h
    obtain ⟨done, hdone, h⟩ := bind_eq_ok.mp h
    obtain ⟨points, hpoints, -⟩ := bind_eq_ok.mp h
    obtain ⟨hsafe, hdistinct, hordered⟩ := loop.mp ⟨done, hdone⟩
    obtain ⟨hchain, -⟩ := coveragePoints_eq_ok hpoints
    exact ⟨⟨(validateSource_eq_ok sound).mp hsource, hsafe⟩, hdistinct, hordered,
      List.isChain_reverse.mp hchain⟩
  · rintro ⟨⟨htotal, hsafe⟩, hdistinct, hordered, hcontinued⟩
    obtain ⟨done, hdone⟩ := loop.mpr ⟨hsafe, hdistinct, hordered⟩
    obtain ⟨points, hpoints⟩ := @exists_coveragePoints source.items.reverse 0 none
      (List.isChain_reverse.mpr hcontinued) fun _ h => (nomatch h)
    exact ⟨_, bind_eq_ok.mpr ⟨(), (validateSource_eq_ok sound).mpr htotal,
      bind_eq_ok.mpr ⟨done, hdone, bind_eq_ok.mpr ⟨points, hpoints, rfl⟩⟩⟩⟩
  · intro timeline h
    unfold buildCoverageTimeline at h
    obtain ⟨_, -, h⟩ := bind_eq_ok.mp h
    obtain ⟨done, -, h⟩ := bind_eq_ok.mp h
    obtain ⟨points, hpoints, h⟩ := bind_eq_ok.mp h
    cases h
    obtain ⟨-, -, charted⟩ := coveragePoints_eq_ok hpoints
    refine ⟨charted.items, ?_, charted.between, ?_⟩
    · have size := charted.items.length_eq
      rw [List.length_reverse] at size
      rw [charted.sequence, size]
    · change (points.map (·.pagesSucceededDelta)).sum = _
      rw [map_of_forall₂ (charted.items.imp fun _ _ hpoint => hpoint.delta), List.map_reverse,
        List.sum_reverse]

/-! ## Followed histories -/

section Followed

variable {sha : Sha256} {world : World (caseSystem sha)} {owner : Text} {casePublicId : Uuid}
  {caseId : Nat} {s : Store}

theorem advances_of_receipt {sync : Nat × SyncRow} {receipt : Addressed ReceiptDocument}
    (h : continuationReceipt sha s caseId casePublicId sync = .ok receipt) :
    0 ≤ receipt.document.transition.pagesSucceededDelta := by
  unfold continuationReceipt at h
  obtain ⟨plan, -, h⟩ := bind_eq_ok.mp h
  obtain ⟨⟨resume, bound⟩, -, h⟩ := bind_eq_ok.mp h
  obtain ⟨_, -, h⟩ := bind_eq_ok.mp h
  obtain ⟨⟨source, output⟩, -, h⟩ := bind_eq_ok.mp h
  obtain ⟨_, -, h⟩ := bind_eq_ok.mp h
  obtain ⟨sourceChain, -, h⟩ := bind_eq_ok.mp h
  obtain ⟨outputChain, -, h⟩ := bind_eq_ok.mp h
  obtain ⟨_, -, h⟩ := bind_eq_ok.mp h
  obtain ⟨afterPlan, -, h⟩ := bind_eq_ok.mp h
  obtain ⟨_, -, h⟩ := bind_eq_ok.mp h
  obtain ⟨_, hadvances, h⟩ := bind_eq_ok.mp h
  obtain ⟨_, -, h⟩ := bind_eq_ok.mp h
  obtain ⟨_, -, h⟩ := bind_eq_ok.mp h
  cases h
  have advances := verify_eq_ok.mp hadvances
  unfold ReceiptDocument.advances at advances
  simp only [Bool.and_eq_true, decide_eq_true_eq] at advances
  exact advances.1.2

/-- The checks of an outcome make its item sound. -/
theorem sound_of_item {sync : Nat × SyncRow} {item : OutcomeHistoryItem}
    (h : outcomeHistoryItem sha s caseId casePublicId sync = .ok item) : item.Sound := by
  obtain ⟨completedAt, -, h⟩ := bind_eq_ok.mp h
  obtain ⟨outcome, houtcome, h⟩ := bind_eq_ok.mp h
  cases h
  unfold backfillOutcome at houtcome
  obtain ⟨plan, -, h⟩ := bind_eq_ok.mp houtcome
  obtain ⟨⟨resume, bound⟩, -, h⟩ := bind_eq_ok.mp h
  obtain ⟨_, -, h⟩ := bind_eq_ok.mp h
  obtain ⟨receipt, hreceipt, h⟩ := bind_eq_ok.mp h
  obtain ⟨_, -, h⟩ := bind_eq_ok.mp h
  obtain ⟨⟨input, output⟩, -, h⟩ := bind_eq_ok.mp h
  obtain ⟨inputProgress, -, h⟩ := bind_eq_ok.mp h
  obtain ⟨inputPlan, -, h⟩ := bind_eq_ok.mp h
  obtain ⟨inputSchedule, -, h⟩ := bind_eq_ok.mp h
  obtain ⟨outputProgress, -, h⟩ := bind_eq_ok.mp h
  obtain ⟨_, -, h⟩ := bind_eq_ok.mp h
  obtain ⟨selection, -, h⟩ := bind_eq_ok.mp h
  obtain ⟨⟨before, after⟩, -, h⟩ := bind_eq_ok.mp h
  obtain ⟨_, hagrees, h⟩ := bind_eq_ok.mp h
  cases h
  have agrees := verify_eq_ok.mp hagrees
  unfold OutcomeTransition.agrees at agrees
  simp only [Bool.and_eq_true, decide_eq_true_eq] at agrees
  obtain ⟨⟨⟨-, hpages⟩, -⟩, hcontinuation⟩ := agrees
  exact ⟨hcontinuation, hpages ▸ advances_of_receipt hreceipt⟩

theorem pages_ne_nil {Id Row Item : Type} {h : History Id Row Item} {limit : Nat}
    {later : List (Store × Nat)} {cursor : Option (HistoryCursor Id)}
    {pages : List (HistoryPage Id Item)} {left : Option (HistoryCursor Id)}
    (hfollow : h.follow owner casePublicId ((s, limit) :: later) cursor = .ok (pages, left)) :
    ∃ first rest, pages = first :: rest := by
  obtain ⟨page, -, hpages⟩ := historyFollow_cons.mp hfollow
  split at hpages
  · exact ⟨page, [], hpages.1⟩
  · obtain ⟨more, -, hpages⟩ := hpages
    exact ⟨page, more, hpages⟩

/-- No two outcomes of a case are of syncs with the same public id. -/
theorem outcomeListing_nodup (ids : PublicIds s) :
    ((s.outcomeListing caseId).map fun r => r.2.publicId).Nodup := by
  have descending := s.syncs.select_descending fun _ row => Store.outcomeEligible caseId row
  refine List.pairwise_map.mpr (descending.imp_of_mem fun {a b} ha hb hlt heq => ?_)
  have same := ids.syncs a.1 b.1 a.2 b.2 (mem_listing.mp ha).1 (mem_listing.mp hb).1 heq
  exact Nat.ne_of_lt hlt same.symm

theorem sound_of_listed {rows : List (Nat × SyncRow)} {requests : List (Store × Nat)}
    {first : HistoryPage Uuid OutcomeHistoryItem}
    {rest : List (HistoryPage Uuid OutcomeHistoryItem)} {left : Option (HistoryCursor Uuid)} (limitations : List Limitation)
    (nodup : (rows.map fun r => r.2.publicId).Nodup)
    (listed : HistoryListed (backfillOutcomeHistory sha) (·.outcome.document.syncPublicId) caseId
      casePublicId rows none requests (first :: rest) left) :
    (coverageSource casePublicId (first :: rest) left limitations).Sound := by
  obtain ⟨⟨shown, below, hall, hleft, hread⟩, -, hsame⟩ := listed
  have all : KeysetPages.below Prod.fst none rows = rows := List.filter_true rows
  rw [all] at hall
  obtain ⟨htotal, hcutoff⟩ := hsame first List.mem_cons_self
  have size := hread.length_eq
  have split := congrArg List.length hall
  rw [List.length_append] at split
  refine ⟨fun item hitem => ?_, ?_, ?_, ?_, ?_⟩
  · obtain ⟨r, -, -, request, -, hread⟩ := exists_of_mem hread.flip hitem
    exact sound_of_item hread
  · change (((first :: rest).flatMap (·.items)).map _).Nodup
    rw [map_of_forall₂ (hread.imp fun _ _ hitem => hitem.1)]
    rw [hall, List.map_append] at nodup
    exact nodup.of_append_left
  · change (((first :: rest).flatMap (·.items)).length : Int) ≤ (first.total : Int)
    omega
  · change first.cutoff.isNone = decide ((first.total : Int) = 0)
    rw [hcutoff, htotal]
    cases rows with
    | nil => rfl
    | cons row rows =>
        refine (decide_eq_false ?_).symm
        rw [List.length_cons]
        omega
  · change left.isSome = decide ((((first :: rest).flatMap (·.items)).length : Int) <
      (first.total : Int))
    cases left with
    | none =>
        rw [hleft.mp rfl, List.length_nil] at split
        refine (decide_eq_false ?_).symm
        omega
    | some cursor =>
        have more : below ≠ [] := fun hnil => absurd (hleft.mpr hnil) (Option.some_ne_none _)
        have := List.length_pos_iff.mpr more
        refine (decide_eq_true ?_).symm
        omega

end Followed

/-! ## A stream that is started anew -/

/-- A page that a schedule selected, then another bounded sync of the
stream, and a page that a schedule selected behind it. -/
def sampleRestart : List (Move (caseSystem journalSha)) :=
  sampleScheduled ++
  journalSession 5
    (.enqueueSync sampleOwner (sampleUuid '0') sampleSyncRequest "again".toList)
    2005 (sampleUuid '5') 30 ++
  journalSession 6 .runSyncWorker 2006 (sampleUuid '6') 60 ++
  journalSession 7
    (.enqueueBackfillSchedule sampleOwner (sampleUuid '0')
      (cutoffDigest '7' (some (syncDigest '3' (sampleUuid '5')))) ⟨1, one_le_pageBudget, pageBudget_le_ten⟩
      "more".toList) 2007 (sampleUuid '7') 60 ++
  journalSession 8 .runSyncWorker 2008 (sampleUuid '8') 60

end TonTracker
