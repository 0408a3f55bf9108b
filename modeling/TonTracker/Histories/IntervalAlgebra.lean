/-
# `Histories.IntervalAlgebra` — what the interval report says of the accepted intervals

At a time `p` the accepted intervals that contain it are the runs active in
the cell of `p` (`mem_label_iff`), so the segments read off the cells are
sets of points: the union is where some interval is, the overlaps where two
are, and the gaps where none is, inside the span.  Lengths count the
microseconds of a set.  None of this looks at the order of the input, and
neither does the report (`intervalCells_perm`, `coverageLayer_perm`).
-/
import Mathlib.Algebra.BigOperators.Ring.Finset
import Mathlib.Data.List.TakeWhile
import Mathlib.Order.Interval.Finset.Nat
import TonTracker.Services.WalletIntervalCoverage
import TonTracker.Lib.ExceptFold

namespace TonTracker

open IntervalSweep

/-! ## Instants as points -/

noncomputable instance : LocallyFiniteOrder Instant :=
  OrderEmbedding.locallyFiniteOrder
    ⟨⟨Instant.micros, Instant.micros_injective⟩, Iff.rfl⟩

/-- An instant between two others for each microsecond between them. -/
theorem card_Ico_instant (a b : Instant) : (Finset.Ico a b).card = b.micros - a.micros := by
  have himage : (Finset.Ico a b).map ⟨Instant.micros, Instant.micros_injective⟩ =
      Finset.Ico a.micros b.micros := by
    ext n
    simp only [Finset.mem_map, Finset.mem_Ico, Function.Embedding.coeFn_mk]
    constructor
    · rintro ⟨t, ⟨hat, htb⟩, rfl⟩
      exact ⟨hat, htb⟩
    · rintro ⟨han, hnb⟩
      exact ⟨⟨n, hnb.trans b.inRange⟩, ⟨han, hnb⟩, rfl⟩
  rw [← Finset.card_map, himage, Nat.card_Ico]

theorem durationMicroseconds_eq {label : Type} {s : Segment Instant label} (h : s.Proper) :
    durationMicroseconds s.start s.stop = s.length := by
  have hlt : s.start.micros < s.stop.micros := h
  rw [Segment.length, card_Ico_instant]
  unfold durationMicroseconds
  omega

/-- The durations of a report count points. -/
theorem totalDuration_eq {label : Type} {l : List (Segment Instant label)}
    (proper : ∀ s ∈ l, s.Proper) (ascending : Ascending l) :
    totalDuration l = {p | ∃ s ∈ l, s.Covers p}.ncard := by
  rw [ncard_covered ascending, totalDuration, Nat.cast_list_sum, List.map_map]
  exact congrArg _ (List.map_congr_left fun s hs => durationMicroseconds_eq (proper s hs))

/-! ## The cells -/

/-- The interval contains the time. -/
def AcceptedInterval.Covers (interval : AcceptedInterval) (p : Instant) : Prop :=
  interval.start ≤ p ∧ p < interval.stop

instance (interval : AcceptedInterval) (p : Instant) : Decidable (interval.Covers p) :=
  inferInstanceAs (Decidable (_ ∧ _))

section Cells

variable {intervals : List AcceptedInterval}

theorem mem_boundaries {x : Instant} :
    x ∈ boundaries intervals ↔ ∃ i ∈ intervals, x = i.start ∨ x = i.stop := by
  unfold boundaries
  rw [(List.mergeSort_perm _ _).mem_iff, List.mem_dedup, List.mem_flatMap]
  simp only [List.mem_cons, List.not_mem_nil, or_false]

theorem boundaries_sorted (intervals : List AcceptedInterval) :
    (boundaries intervals).Pairwise (· < ·) := by
  have sorted := KeySort.sortBy_pairwise KeySort.order_le id
    (intervals.flatMap fun interval => [interval.start, interval.stop]).dedup
  have nodup : (boundaries intervals).Nodup :=
    (List.mergeSort_perm _ _).nodup_iff.mpr (List.nodup_dedup _)
  exact (sorted.and nodup).imp fun h => lt_of_le_of_ne (of_decide_eq_true h.1) h.2

theorem intervalCells_eq : intervalCells intervals =
    (pieces (boundaries intervals)).map fun s =>
      ⟨s.start, s.stop, activeRunIds intervals s.start s.stop⟩ := by
  have proper := proper_of_mem_pieces (boundaries_sorted intervals)
  unfold intervalCells pieces
  dsimp only
  rw [List.filter_eq_self.mpr fun pair hpair => decide_eq_true
    (proper ⟨pair.1, pair.2, ()⟩ (List.mem_map_of_mem hpair)), List.map_map]
  rfl

/-- A cell is a piece between two endpoints. -/
theorem mem_intervalCells {cell : IntervalCell} (h : cell ∈ intervalCells intervals) :
    ⟨cell.start, cell.stop, ()⟩ ∈ pieces (boundaries intervals) ∧
      cell.label = activeRunIds intervals cell.start cell.stop := by
  rw [intervalCells_eq] at h
  obtain ⟨s, hs, rfl⟩ := List.mem_map.mp h
  exact ⟨hs, rfl⟩

theorem cells_proper : ∀ cell ∈ intervalCells intervals, cell.Proper := fun _ h =>
  proper_of_mem_pieces (boundaries_sorted intervals) _ (mem_intervalCells h).1

theorem cells_ascending (intervals : List AcceptedInterval) :
    Ascending (intervalCells intervals) := by
  rw [intervalCells_eq]
  exact List.pairwise_map.mpr (ascending_pieces (boundaries_sorted intervals))

theorem cells_chain (intervals : List AcceptedInterval) :
    (intervalCells intervals).IsChain fun a b => a.stop = b.start := by
  rw [intervalCells_eq]
  exact List.isChain_map _ |>.mpr (chain_pieces _)

/-- The cells are all times from the earliest start to the latest end. -/
theorem covers_cells {p : Instant} : (∃ cell ∈ intervalCells intervals, cell.Covers p) ↔
    (∃ i ∈ intervals, i.start ≤ p) ∧ ∃ i ∈ intervals, p < i.stop := by
  have hpieces := covers_pieces (boundaries_sorted intervals) (p := p)
  have hcells : (∃ cell ∈ intervalCells intervals, cell.Covers p) ↔
      ∃ s ∈ pieces (boundaries intervals), s.Covers p := by
    rw [intervalCells_eq]
    simp only [List.mem_map, exists_exists_and_eq_and]
    rfl
  rw [hcells, hpieces]
  constructor
  · rintro ⟨⟨x, hx, hxp⟩, y, hy, hpy⟩
    obtain ⟨i, hi, hix⟩ := mem_boundaries.mp hx
    obtain ⟨j, hj, hjy⟩ := mem_boundaries.mp hy
    refine ⟨⟨i, hi, ?_⟩, j, hj, ?_⟩
    · rcases hix with rfl | rfl
      · exact hxp
      · exact (i.ordered.trans_le hxp).le
    · rcases hjy with rfl | rfl
      · exact hpy.trans j.ordered
      · exact hpy
  · rintro ⟨⟨i, hi, hip⟩, j, hj, hpj⟩
    exact ⟨⟨_, mem_boundaries.mpr ⟨i, hi, .inl rfl⟩, hip⟩,
      _, mem_boundaries.mpr ⟨j, hj, .inr rfl⟩, hpj⟩

/-- An interval meets a cell where it contains any one of its points. -/
theorem meets_iff_covers {cell : IntervalCell} (h : cell ∈ intervalCells intervals) {p : Instant}
    (hp : cell.Covers p) {i : AcceptedInterval} (hi : i ∈ intervals) :
    (i.start < cell.stop ∧ cell.start < i.stop) ↔ i.Covers p := by
  have outside := outside_of_mem_pieces (boundaries_sorted intervals) _ (mem_intervalCells h).1
  have hstart := outside _ (mem_boundaries.mpr ⟨i, hi, .inl rfl⟩)
  have hstop := outside _ (mem_boundaries.mpr ⟨i, hi, .inr rfl⟩)
  constructor
  · rintro ⟨hlt, hgt⟩
    exact ⟨(hstart.resolve_right hlt.not_ge).trans hp.1,
      hp.2.trans_le (hstop.resolve_left hgt.not_ge)⟩
  · rintro ⟨hle, hlt⟩
    exact ⟨hle.trans_lt hp.2, hp.1.trans_lt hlt⟩

/-- The runs of a cell are those whose intervals contain a point of it. -/
theorem label_eq {cell : IntervalCell} (h : cell ∈ intervalCells intervals) {p : Instant}
    (hp : cell.Covers p) : cell.label =
      sortedRunIds ((intervals.filter fun i => decide (i.Covers p)).map (·.runId)) := by
  rw [(mem_intervalCells h).2, activeRunIds]
  refine congrArg (fun l : List AcceptedInterval => sortedRunIds (l.map (·.runId)))
    (List.filter_congr fun i hi => ?_)
  rw [← Bool.decide_and]
  exact decide_eq_decide.mpr (meets_iff_covers h hp hi)

theorem mem_label_iff {cell : IntervalCell} (h : cell ∈ intervalCells intervals) {p : Instant}
    (hp : cell.Covers p) (runId : Int) :
    runId ∈ cell.label ↔ ∃ i ∈ intervals, i.runId = runId ∧ i.Covers p := by
  rw [label_eq h hp, sortedRunIds, (List.mergeSort_perm _ _).mem_iff]
  simp only [List.mem_map, List.mem_filter, decide_eq_true_eq]
  exact exists_congr fun i => ⟨fun h => ⟨h.1.1, h.2, h.1.2⟩, fun h => ⟨⟨h.1, h.2.2⟩, h.2.1⟩⟩

/-- How many accepted intervals contain a time. -/
def depth (intervals : List AcceptedInterval) (p : Instant) : Nat :=
  intervals.countP fun i => decide (i.Covers p)

theorem length_label {cell : IntervalCell} (h : cell ∈ intervalCells intervals) {p : Instant}
    (hp : cell.Covers p) : cell.label.length = depth intervals p := by
  rw [label_eq h hp, sortedRunIds, List.length_mergeSort, List.length_map, depth,
    List.countP_eq_length_filter]

theorem label_eq_nil_iff {cell : IntervalCell} (h : cell ∈ intervalCells intervals) {p : Instant}
    (hp : cell.Covers p) : cell.label = [] ↔ ¬ ∃ i ∈ intervals, i.Covers p := by
  rw [List.eq_nil_iff_forall_not_mem]
  constructor
  · rintro hnone ⟨i, hi, hcovers⟩
    exact hnone i.runId ((mem_label_iff h hp _).mpr ⟨i, hi, rfl, hcovers⟩)
  · rintro hnone runId hmem
    obtain ⟨i, hi, -, hcovers⟩ := (mem_label_iff h hp runId).mp hmem
    exact hnone ⟨i, hi, hcovers⟩

theorem covers_cells_of_covers {p : Instant} {i : AcceptedInterval} (hi : i ∈ intervals)
    (hp : i.Covers p) : ∃ cell ∈ intervalCells intervals, cell.Covers p :=
  covers_cells.mpr ⟨⟨i, hi, hp.1⟩, i, hi, hp.2⟩

end Cells

/-! ## The union and the overlaps -/

/-- Passing over cells is sweeping over the others. -/
theorem foldl_skip {label kept : Type} [DecidableEq kept] (keep : Segment Instant label → Bool)
    (f : Segment Instant label → Segment Instant kept) (cells : List (Segment Instant label))
    (segments : List (Segment Instant kept)) :
    cells.foldl (fun segments cell => if keep cell = true then push segments (f cell)
      else segments) segments = ((cells.filter keep).map f).foldl push segments := by
  rw [List.foldl_map, List.foldl_filter]

variable {intervals : List AcceptedInterval}

/-- The cells with an active run, without the runs. -/
theorem joins_union (intervals : List AcceptedInterval) :
    Joins (((intervalCells intervals).filter fun cell => decide (cell.label ≠ [])).map
      fun cell => (⟨cell.start, cell.stop, ()⟩ : Segment Instant Unit))
      (unionIntervals (intervalCells intervals)) := by
  have hunion := foldl_skip (fun cell : IntervalCell => decide (cell.label ≠ []))
    (fun cell => (⟨cell.start, cell.stop, ()⟩ : Segment Instant Unit)) (intervalCells intervals) []
  simp only [decide_eq_true_eq, ite_not] at hunion
  rw [unionIntervals, hunion]
  have joins := joins_foldl (((intervalCells intervals).filter
    fun cell => decide (cell.label ≠ [])).map fun cell =>
      (⟨cell.start, cell.stop, ()⟩ : Segment Instant Unit)) joins_nil ?_ ?_
  · rwa [List.nil_append] at joins
  · intro s hs
    obtain ⟨cell, hcell, rfl⟩ := List.mem_map.mp hs
    exact cells_proper cell (List.mem_of_mem_filter hcell)
  · rw [List.nil_append]
    exact List.pairwise_map.mpr ((cells_ascending intervals).filter _)

/-- The cells with two active runs. -/
theorem joins_overlaps (intervals : List AcceptedInterval) :
    Joins ((intervalCells intervals).filter fun cell => decide (2 ≤ cell.label.length))
      (overlapIntervals (intervalCells intervals)) := by
  have hoverlaps := foldl_skip (fun cell : IntervalCell => decide (2 ≤ cell.label.length)) id
    (intervalCells intervals) []
  simp only [decide_eq_true_eq, ← not_lt, ite_not, List.map_id, id] at hoverlaps
  rw [overlapIntervals, hoverlaps]
  simp only [← not_lt]
  have joins := joins_foldl ((intervalCells intervals).filter
    fun cell => decide ¬cell.label.length < 2) joins_nil ?_ ?_
  · rwa [List.nil_append] at joins
  · exact fun s hs => cells_proper s (List.mem_of_mem_filter hs)
  · exact (cells_ascending intervals).filter _

theorem covers_union {p : Instant} :
    (∃ s ∈ unionIntervals (intervalCells intervals), s.Covers p) ↔
      ∃ i ∈ intervals, i.Covers p := by
  have hcovers := (joins_union intervals).covers p ()
  simp only [true_and] at hcovers
  rw [hcovers]
  constructor
  · rintro ⟨s, hs, hp⟩
    obtain ⟨cell, hcell, rfl⟩ := List.mem_map.mp hs
    obtain ⟨hcell, hlabel⟩ := List.mem_filter.mp hcell
    exact not_not.mp fun hnone =>
      of_decide_eq_true hlabel ((label_eq_nil_iff hcell hp).mpr hnone)
  · rintro ⟨i, hi, hp⟩
    obtain ⟨cell, hcell, hcp⟩ := covers_cells_of_covers hi hp
    refine ⟨_, List.mem_map_of_mem (List.mem_filter.mpr ⟨hcell, decide_eq_true ?_⟩), hcp⟩
    exact fun hnil => (label_eq_nil_iff hcell hcp).mp hnil ⟨i, hi, hp⟩

/-- A point of an overlap lies in a cell of the same runs. -/
theorem cell_of_overlap {p : Instant} {s : IntervalCell}
    (hs : s ∈ overlapIntervals (intervalCells intervals)) (hp : s.Covers p) :
    ∃ cell ∈ intervalCells intervals, cell.Covers p ∧ cell.label = s.label ∧
      2 ≤ s.label.length := by
  obtain ⟨cell, hcell, hlabel, hcp⟩ :=
    ((joins_overlaps intervals).covers p s.label).mp ⟨s, hs, rfl, hp⟩
  obtain ⟨hcell, hlength⟩ := List.mem_filter.mp hcell
  exact ⟨cell, hcell, hcp, hlabel, hlabel ▸ of_decide_eq_true hlength⟩

theorem covers_overlaps {p : Instant} :
    (∃ s ∈ overlapIntervals (intervalCells intervals), s.Covers p) ↔
      2 ≤ depth intervals p := by
  constructor
  · rintro ⟨s, hs, hp⟩
    obtain ⟨cell, hcell, hcp, hlabel, hlength⟩ := cell_of_overlap hs hp
    rwa [← length_label hcell hcp, hlabel]
  · intro hdepth
    obtain ⟨i, hi, hcovers⟩ := List.countP_pos_iff.mp (Nat.lt_of_lt_of_le Nat.zero_lt_two hdepth)
    obtain ⟨cell, hcell, hcp⟩ := covers_cells_of_covers hi (of_decide_eq_true hcovers)
    have hlength : 2 ≤ cell.label.length := length_label hcell hcp ▸ hdepth
    obtain ⟨s, hs, -, hp⟩ := ((joins_overlaps intervals).covers p cell.label).mpr
      ⟨cell, List.mem_filter.mpr ⟨hcell, decide_eq_true hlength⟩, rfl, hcp⟩
    exact ⟨s, hs, hp⟩

/-! ## The gaps -/

theorem getLast_cons_eq (cell : IntervalCell) (run : List IntervalCell) :
    (cell :: run).getLast (List.cons_ne_nil _ _) = run.getLastD cell := by
  cases run with
  | nil => rfl
  | cons next run => rw [List.getLast_cons (List.cons_ne_nil _ _), List.getLastD_cons,
      List.getLast_eq_getLastD]

/-- The gaps of a list of cells: where its empty cells are. -/
structure GapsOf (cells : List IntervalCell) (gaps : List (Segment Instant GapRunIds)) : Prop where
  covers : ∀ p, (∃ g ∈ gaps, g.Covers p) ↔ ∃ cell ∈ cells, cell.label = [] ∧ cell.Covers p
  proper : ∀ g ∈ gaps, g.Proper
  separated : Separated gaps
  starts : ∀ g ∈ gaps, ∃ cell ∈ cells, cell.label = [] ∧ g.start = cell.start

theorem gapsOf_nil : GapsOf [] [] where
  covers _ := iff_of_false (fun h => List.not_mem_nil h.choose_spec.1)
    fun h => List.not_mem_nil h.choose_spec.1
  proper _ h := absurd h List.not_mem_nil
  separated := .nil
  starts _ h := absurd h List.not_mem_nil

/-- A cell with runs has no part in a gap. -/
theorem GapsOf.skip {cell : IntervalCell} {rest : List IntervalCell}
    {gaps : List (Segment Instant GapRunIds)} (h : GapsOf rest gaps) (hcell : cell.label ≠ []) :
    GapsOf (cell :: rest) gaps where
  covers p := by
    rw [h.covers p]
    constructor
    · rintro ⟨c, hc, hp⟩
      exact ⟨c, List.mem_cons_of_mem _ hc, hp⟩
    · rintro ⟨c, hc, hnil, hp⟩
      rcases List.mem_cons.mp hc with rfl | hc
      · exact absurd hnil hcell
      · exact ⟨c, hc, hnil, hp⟩
  proper := h.proper
  separated := h.separated
  starts g hg := by
    obtain ⟨c, hc, hstart⟩ := h.starts g hg
    exact ⟨c, List.mem_cons_of_mem _ hc, hstart⟩

/-- An empty cell and the empty cells behind it are one gap, apart from the
gaps behind the next cell with runs. -/
theorem GapsOf.emit {cell : IntervalCell} {run others : List IntervalCell} {runIds : GapRunIds}
    {gaps : List (Segment Instant GapRunIds)} (h : GapsOf others gaps)
    (chain : (cell :: run ++ others).IsChain fun a b => a.stop = b.start)
    (proper : ∀ c ∈ cell :: run ++ others, c.Proper)
    (empty : ∀ c ∈ cell :: run, c.label = [])
    (next : ∀ c, others.head? = some c → c.label ≠ []) :
    GapsOf (cell :: run ++ others) (⟨cell.start, (run.getLastD cell).stop, runIds⟩ :: gaps) := by
  obtain ⟨hrun, hothers, touch⟩ := List.isChain_append.mp chain
  have runProper : ∀ c ∈ cell :: run, c.Proper := fun c hc => proper c (List.mem_append_left _ hc)
  have hgap : ∀ p, (⟨cell.start, (run.getLastD cell).stop, runIds⟩ :
      Segment Instant GapRunIds).Covers p ↔ ∃ c ∈ cell :: run, c.Covers p := by
    intro p
    rw [covers_chain hrun runProper, getLast_cons_eq]
    rfl
  refine ⟨fun p => ?_, fun g hg => ?_, ?_, fun g hg => ?_⟩
  · have hcovers := h.covers p
    constructor
    · rintro ⟨g, hg, hp⟩
      rcases List.mem_cons.mp hg with rfl | hg
      · obtain ⟨c, hc, hcp⟩ := (hgap p).mp hp
        exact ⟨c, List.mem_append_left _ hc, empty c hc, hcp⟩
      · obtain ⟨c, hc, hcp⟩ := hcovers.mp ⟨g, hg, hp⟩
        exact ⟨c, List.mem_append_right _ hc, hcp⟩
    · rintro ⟨c, hc, hnil, hp⟩
      rcases List.mem_append.mp hc with hc | hc
      · exact ⟨_, List.mem_cons_self, (hgap p).mpr ⟨c, hc, hp⟩⟩
      · obtain ⟨g, hg, hgp⟩ := hcovers.mpr ⟨c, hc, hnil, hp⟩
        exact ⟨g, List.mem_cons_of_mem _ hg, hgp⟩
  · rcases List.mem_cons.mp hg with rfl | hg
    · have hfirst := (hgap cell.start).mpr
        ⟨cell, List.mem_cons_self, le_rfl, runProper cell List.mem_cons_self⟩
      exact hfirst.2
    · exact h.proper g hg
  · refine List.pairwise_cons.mpr ⟨fun g hg => ?_, h.separated⟩
    obtain ⟨c, hc, hnil, hstart⟩ := h.starts g hg
    cases others with
    | nil => exact absurd hc List.not_mem_nil
    | cons first others =>
        -- The cell between the two gaps has runs, and points.
        have htouch := touch (run.getLastD cell)
          (by rw [List.getLast?_eq_some_getLast (List.cons_ne_nil _ _), getLast_cons_eq]; rfl)
          first rfl
        have hfirst : first.start < first.stop :=
          proper first (List.mem_append_right _ List.mem_cons_self)
        have ascending := pairwise_of_chain (R := (· ≤ ·))
          (fun hab hbc hcd => hab.trans (hbc.le.trans hcd))
          (fun c hc => proper c (List.mem_append_right _ hc)) (hothers.imp fun _ _ h => h.le)
        have hc : c ∈ others := (List.mem_cons.mp hc).resolve_left fun heq =>
          next first rfl (heq ▸ hnil)
        show (run.getLastD cell).stop < g.start
        rw [htouch, hstart]
        exact hfirst.trans_le ((List.pairwise_cons.mp ascending).1 c hc)
  · rcases List.mem_cons.mp hg with rfl | hg
    · exact ⟨cell, List.mem_cons_self, empty cell List.mem_cons_self, rfl⟩
    · obtain ⟨c, hc, hstart⟩ := h.starts g hg
      exact ⟨c, List.mem_append_right _ hc, hstart⟩

/-- The sweep behind a cell: behind an empty one, the empty cells that
follow belong to a gap already given. -/
theorem gapsOf_gapIntervals {cells : List IntervalCell}
    (chain : cells.IsChain fun a b => a.stop = b.start) (proper : ∀ c ∈ cells, c.Proper)
    (before : Option IntervalCell) :
    GapsOf (if before.any (·.label.isEmpty) = true then cells.dropWhile (·.label.isEmpty)
      else cells) (gapIntervals before cells) := by
  induction cells generalizing before with
  | nil =>
      rw [List.dropWhile_nil, ite_self]
      exact gapsOf_nil
  | cons cell rest ih =>
      have hih := ih chain.tail (fun c hc => proper c (List.mem_cons_of_mem _ hc)) (some cell)
      rw [Option.any_some] at hih
      rw [gapIntervals]
      by_cases hcell : cell.label = []
      · have hempty : cell.label.isEmpty = true := List.isEmpty_iff.mpr hcell
        rw [if_pos hempty] at hih
        by_cases hbefore : before.any (·.label.isEmpty) = true
        · rw [if_pos hbefore, if_pos (.inr hbefore),
            List.dropWhile_cons_of_pos (p := fun c : IntervalCell => c.label.isEmpty) hempty]
          exact hih
        · rw [if_neg hbefore, if_neg (not_or.mpr ⟨not_not.mpr hcell, hbefore⟩)]
          have split : cell :: rest = cell :: rest.takeWhile (·.label.isEmpty) ++
              rest.dropWhile (·.label.isEmpty) := by
            rw [List.cons_append, List.takeWhile_append_dropWhile]
          rw [split] at chain proper ⊢
          refine hih.emit chain proper (fun c hc => ?_) fun c hc => ?_
          · rcases List.mem_cons.mp hc with rfl | hc
            · exact hcell
            · exact List.isEmpty_iff.mp
                (List.mem_takeWhile_imp (p := fun c : IntervalCell => c.label.isEmpty) hc)
          · have hhead := List.head?_dropWhile_not (fun c : IntervalCell => c.label.isEmpty) rest
            rw [hc] at hhead
            exact fun hnil => absurd (List.isEmpty_iff.mpr hnil) (Bool.eq_false_iff.mp hhead)
      · have hempty : ¬ cell.label.isEmpty = true := fun h => hcell (List.isEmpty_iff.mp h)
        rw [if_neg hempty] at hih
        rw [if_pos (Or.inl hcell : cell.label ≠ [] ∨ _),
          List.dropWhile_cons_of_neg (p := fun c : IntervalCell => c.label.isEmpty) hempty,
          ite_self]
        exact hih.skip hcell

theorem gaps_spec (intervals : List AcceptedInterval) :
    GapsOf (intervalCells intervals) (gapIntervals none (intervalCells intervals)) :=
  gapsOf_gapIntervals (cells_chain intervals) cells_proper none

theorem covers_gaps {p : Instant} :
    (∃ g ∈ gapIntervals none (intervalCells intervals), g.Covers p) ↔
      ((∃ i ∈ intervals, i.start ≤ p) ∧ ∃ i ∈ intervals, p < i.stop) ∧
        ¬ ∃ i ∈ intervals, i.Covers p := by
  rw [(gaps_spec intervals).covers p, ← covers_cells]
  constructor
  · rintro ⟨cell, hcell, hnil, hp⟩
    exact ⟨⟨cell, hcell, hp⟩, (label_eq_nil_iff hcell hp).mp hnil⟩
  · rintro ⟨⟨cell, hcell, hp⟩, hnone⟩
    exact ⟨cell, hcell, (label_eq_nil_iff hcell hp).mpr hnone, hp⟩

/-! ## The span -/

/-- The span is from the earliest start to the latest end. -/
structure IsSpan (intervals : List AcceptedInterval) (start stop : Instant) : Prop where
  isStart : ∃ i ∈ intervals, i.start = start
  starts : ∀ i ∈ intervals, start ≤ i.start
  isStop : ∃ i ∈ intervals, i.stop = stop
  stops : ∀ i ∈ intervals, i.stop ≤ stop

theorem IsSpan.covers {start stop : Instant} (h : IsSpan intervals start stop) {p : Instant} :
    (start ≤ p ∧ p < stop) ↔ (∃ i ∈ intervals, i.start ≤ p) ∧ ∃ i ∈ intervals, p < i.stop := by
  obtain ⟨i, hi, rfl⟩ := h.isStart
  obtain ⟨j, hj, rfl⟩ := h.isStop
  constructor
  · rintro ⟨hle, hlt⟩
    exact ⟨⟨i, hi, hle⟩, j, hj, hlt⟩
  · rintro ⟨⟨k, hk, hkp⟩, l, hl, hpl⟩
    exact ⟨(h.starts k hk).trans hkp, hpl.trans_le (h.stops l hl)⟩

theorem union_proper : ∀ s ∈ unionIntervals (intervalCells intervals), s.Proper :=
  (joins_union intervals).proper

theorem union_separated (intervals : List AcceptedInterval) :
    Separated (unionIntervals (intervalCells intervals)) :=
  (joins_union intervals).separated fun _ _ _ _ => rfl

theorem first_le {l : List (Segment Instant Unit)} (ascending : Ascending l)
    (proper : ∀ s ∈ l, s.Proper) {first : Segment Instant Unit} (hfirst : l.head? = some first) :
    ∀ s ∈ l, first.start ≤ s.start := by
  cases l with
  | nil => cases hfirst
  | cons a l =>
      obtain rfl := Option.some.inj hfirst
      intro s hs
      rcases List.mem_cons.mp hs with rfl | hs
      · exact le_rfl
      · have ha : a.start < a.stop := proper a List.mem_cons_self
        exact ha.le.trans ((List.pairwise_cons.mp ascending).1 s hs)

theorem le_last {l : List (Segment Instant Unit)} (ascending : Ascending l)
    (proper : ∀ s ∈ l, s.Proper) {last : Segment Instant Unit} (hlast : l.getLast? = some last) :
    ∀ s ∈ l, s.stop ≤ last.stop := by
  obtain ⟨init, rfl⟩ := List.getLast?_eq_some_iff.mp hlast
  intro s hs
  have hproper : last.start < last.stop :=
    proper last (List.mem_append_right _ List.mem_cons_self)
  rcases List.mem_append.mp hs with hs | hs
  · exact ((List.pairwise_append.mp ascending).2.2 s hs last List.mem_cons_self).trans hproper.le
  · rw [List.mem_singleton.mp hs]

theorem spanOf_eq_some {start stop : Instant}
    (h : spanOf (unionIntervals (intervalCells intervals)) = some (start, stop)) :
    IsSpan intervals start stop := by
  have ascending := (union_separated intervals).ascending
  unfold spanOf at h
  split at h
  case h_2 => cases h
  case h_1 first last hfirst hlast =>
    cases h
    have hle := first_le ascending union_proper hfirst
    have hge := le_last ascending union_proper hlast
    have firstMem := List.mem_of_mem_head? hfirst
    have lastMem := List.mem_of_getLast? hlast
    have starts : ∀ i ∈ intervals, first.start ≤ i.start := by
      intro i hi
      obtain ⟨s, hs, hp⟩ := covers_union.mpr ⟨i, hi, le_rfl, i.ordered⟩
      exact (hle s hs).trans hp.1
    have stops : ∀ i ∈ intervals, i.stop ≤ last.stop := by
      intro i hi
      refine le_of_not_gt fun hlt => ?_
      obtain ⟨s, hs, hp⟩ := covers_union.mpr
        ⟨i, hi, le_max_right last.stop i.start, max_lt hlt i.ordered⟩
      exact absurd (hp.2.trans_le (hge s hs)) (le_max_left _ _).not_gt
    refine ⟨?_, starts, ?_, stops⟩
    · obtain ⟨i, hi, hp⟩ := covers_union.mp ⟨first, firstMem, le_rfl, union_proper first firstMem⟩
      exact ⟨i, hi, le_antisymm hp.1 (starts i hi)⟩
    · obtain ⟨t, ht, hstop⟩ := (joins_union intervals).within last lastMem
      obtain ⟨cell, hcell, rfl⟩ := List.mem_map.mp ht
      obtain ⟨hcell, hlabel⟩ := List.mem_filter.mp hcell
      have hproper : cell.start < cell.stop := cells_proper cell hcell
      obtain ⟨i, hi, hp⟩ := not_not.mp fun hnone => of_decide_eq_true hlabel
        ((label_eq_nil_iff hcell (p := cell.start) ⟨le_rfl, hproper⟩).mpr hnone)
      refine ⟨i, hi, le_antisymm (stops i hi) ?_⟩
      have hout := outside_of_mem_pieces (boundaries_sorted intervals) _
        (mem_intervalCells hcell).1 _ (mem_boundaries.mpr ⟨i, hi, .inr rfl⟩)
      rw [hstop]
      exact hout.resolve_left hp.2.not_ge

theorem spanOf_eq_none (h : spanOf (unionIntervals (intervalCells intervals)) = none) :
    intervals = [] := by
  unfold spanOf at h
  split at h
  case h_1 => cases h
  case h_2 hnone =>
    refine List.eq_nil_iff_forall_not_mem.mpr fun i hi => ?_
    obtain ⟨s, hs, -⟩ := covers_union.mpr ⟨i, hi, le_rfl, i.ordered⟩
    have hne := List.ne_nil_of_mem hs
    exact hnone _ _ (List.head?_eq_some_head hne) (List.getLast?_eq_some_getLast hne)

/-! ## The algebra -/

instance : Finite Instant :=
  Finite.of_injective (fun t : Instant => (⟨t.micros, t.inRange⟩ : Fin maxMicros))
    fun _ _ h => Instant.micros_injective (congrArg Fin.val h)

/-- What a report's segments are to the accepted intervals. -/
structure CoverageAlgebra (accepted : List AcceptedInterval) (union : List (Segment Instant Unit))
    (overlaps : List IntervalCell) (gaps : List (Segment Instant GapRunIds)) : Prop where
  /-- The union's segments are in order, apart, and where an interval is. -/
  unionProper : ∀ s ∈ union, s.Proper
  unionSeparated : Separated union
  unionCovers : ∀ p, (∃ s ∈ union, s.Covers p) ↔ ∃ i ∈ accepted, i.Covers p
  unionMaximal : ∀ a b, a < b → (∀ p, a ≤ p → p < b → ∃ i ∈ accepted, i.Covers p) →
    ∃ s ∈ union, s.start ≤ a ∧ b ≤ s.stop
  /-- The span is from the earliest start to the latest end. -/
  span : match spanOf union with
    | some (start, stop) => IsSpan accepted start stop
    | none => accepted = []
  /-- Union and gaps are the span, and share no time. -/
  gapsProper : ∀ g ∈ gaps, g.Proper
  gapsSeparated : Separated gaps
  partition : ∀ p, (∃ bounds, spanOf union = some bounds ∧ bounds.1 ≤ p ∧ p < bounds.2) ↔
    ((∃ s ∈ union, s.Covers p) ∨ ∃ g ∈ gaps, g.Covers p)
  apart : ∀ s ∈ union, ∀ g ∈ gaps, ∀ p, s.Covers p → ¬ g.Covers p
  durations : totalDuration union + totalDuration gaps = spanDuration (spanOf union)
  coveredDuration : totalDuration union = {p | ∃ i ∈ accepted, i.Covers p}.ncard
  /-- The overlaps are where two intervals are, with their runs. -/
  overlapsProper : ∀ s ∈ overlaps, s.Proper
  overlapsAscending : Ascending overlaps
  overlapCovers : ∀ p, (∃ s ∈ overlaps, s.Covers p) ↔ 2 ≤ depth accepted p
  overlapRuns : ∀ s ∈ overlaps, s.label.Pairwise (· < ·) ∧ ∀ p, s.Covers p →
    s.label.length = depth accepted p ∧
      ∀ runId, runId ∈ s.label ↔ ∃ i ∈ accepted, i.runId = runId ∧ i.Covers p
  overlappedDuration : totalDuration overlaps = {p | 2 ≤ depth accepted p}.ncard

/-- In the span, where an interval is or none is. -/
theorem covers_span {p : Instant} :
    (∃ bounds, spanOf (unionIntervals (intervalCells intervals)) = some bounds ∧
      bounds.1 ≤ p ∧ p < bounds.2) ↔
      (∃ i ∈ intervals, i.start ≤ p) ∧ ∃ i ∈ intervals, p < i.stop := by
  cases h : spanOf (unionIntervals (intervalCells intervals)) with
  | none =>
      rw [spanOf_eq_none h]
      exact iff_of_false (fun ⟨_, h, _⟩ => nomatch h) fun ⟨⟨_, h, _⟩, _⟩ => List.not_mem_nil h
  | some bounds =>
      rw [← (spanOf_eq_some h).covers]
      simp only [Option.some.injEq, exists_eq_left']

theorem partition_span {p : Instant} :
    (∃ bounds, spanOf (unionIntervals (intervalCells intervals)) = some bounds ∧
      bounds.1 ≤ p ∧ p < bounds.2) ↔
      ((∃ s ∈ unionIntervals (intervalCells intervals), s.Covers p) ∨
        ∃ g ∈ gapIntervals none (intervalCells intervals), g.Covers p) := by
  rw [covers_span, covers_union, covers_gaps]
  constructor
  · intro hspan
    by_cases hcovered : ∃ i ∈ intervals, i.Covers p
    · exact .inl hcovered
    · exact .inr ⟨hspan, hcovered⟩
  · rintro (⟨i, hi, hp⟩ | ⟨hspan, -⟩)
    · exact ⟨⟨i, hi, hp.1⟩, i, hi, hp.2⟩
    · exact hspan

/-- The duration of the span counts its points. -/
theorem spanDuration_eq :
    spanDuration (spanOf (unionIntervals (intervalCells intervals))) =
      {p | ∃ bounds, spanOf (unionIntervals (intervalCells intervals)) = some bounds ∧
        bounds.1 ≤ p ∧ p < bounds.2}.ncard := by
  cases h : spanOf (unionIntervals (intervalCells intervals)) with
  | none => simp [spanDuration]
  | some bounds =>
      have hspan := spanOf_eq_some h
      obtain ⟨i, hi, hstart⟩ := hspan.isStart
      have hlt : bounds.1 < bounds.2 := hstart ▸ i.ordered.trans_le (hspan.stops i hi)
      have hset : {p | ∃ b, some bounds = some b ∧ b.1 ≤ p ∧ p < b.2} =
          {p | ∃ s ∈ [(⟨bounds.1, bounds.2, ()⟩ : Segment Instant Unit)], s.Covers p} := by
        ext p
        simp only [Set.mem_ofPred_eq, Option.some.injEq, exists_eq_left', List.mem_singleton,
          exists_eq_left]
        rfl
      rw [hset, ← totalDuration_eq (fun s hs => List.mem_singleton.mp hs ▸ hlt)
        (List.pairwise_singleton _ _)]
      simp [spanDuration, totalDuration]

theorem durations_span :
    totalDuration (unionIntervals (intervalCells intervals)) +
      totalDuration (gapIntervals none (intervalCells intervals)) =
      spanDuration (spanOf (unionIntervals (intervalCells intervals))) := by
  have hgaps := gaps_spec intervals
  rw [spanDuration_eq, totalDuration_eq union_proper (union_separated intervals).ascending,
    totalDuration_eq hgaps.proper hgaps.separated.ascending, ← Nat.cast_add,
    ← Set.ncard_union_eq ?_ (Set.toFinite _) (Set.toFinite _)]
  · congr 2
    ext p
    exact partition_span.symm
  · rw [Set.disjoint_left]
    intro p hunion hgap
    exact (covers_gaps.mp hgap).2 (covers_union.mp hunion)

/-- The runs of a cell are in order, each once. -/
theorem label_sorted (distinct : (intervals.map (·.runId)).Nodup) {cell : IntervalCell}
    (h : cell ∈ intervalCells intervals) : cell.label.Pairwise (· < ·) := by
  rw [label_eq h (p := cell.start) ⟨le_rfl, cells_proper cell h⟩]
  have sorted := KeySort.sortBy_pairwise KeySort.order_le id
    ((intervals.filter fun i => decide (i.Covers cell.start)).map (·.runId))
  have nodup : (sortedRunIds
      ((intervals.filter fun i => decide (i.Covers cell.start)).map (·.runId))).Nodup :=
    (List.mergeSort_perm _ _).nodup_iff.mpr (distinct.sublist (List.filter_sublist.map _))
  exact (sorted.and nodup).imp fun h => lt_of_le_of_ne (of_decide_eq_true h.1) h.2

/-- The sweep over any collection of intervals of distinct runs. -/
theorem coverageAlgebra (distinct : (intervals.map (·.runId)).Nodup) :
    CoverageAlgebra intervals (unionIntervals (intervalCells intervals))
      (overlapIntervals (intervalCells intervals))
      (gapIntervals none (intervalCells intervals)) where
  unionProper := union_proper
  unionSeparated := union_separated intervals
  unionCovers _ := covers_union
  unionMaximal a b hab hcovered := within_of_separated (union_separated intervals) hab
    fun p hap hpb => covers_union.mpr (hcovered p hap hpb)
  span := by
    cases h : spanOf (unionIntervals (intervalCells intervals)) with
    | none => exact spanOf_eq_none h
    | some bounds => exact spanOf_eq_some h
  gapsProper := (gaps_spec intervals).proper
  gapsSeparated := (gaps_spec intervals).separated
  partition _ := partition_span
  apart s hs g hg p hsp hgp := (covers_gaps.mp ⟨g, hg, hgp⟩).2 (covers_union.mp ⟨s, hs, hsp⟩)
  durations := durations_span
  coveredDuration := by
    rw [totalDuration_eq union_proper (union_separated intervals).ascending]
    congr 2
    ext p
    exact covers_union
  overlapsProper := (joins_overlaps intervals).proper
  overlapsAscending := (joins_overlaps intervals).ascending
  overlapCovers _ := covers_overlaps
  overlapRuns s hs := by
    obtain ⟨cell, hcell, -, hlabel, -⟩ :=
      cell_of_overlap hs ⟨le_rfl, (joins_overlaps intervals).proper s hs⟩
    refine ⟨hlabel ▸ label_sorted distinct hcell, fun p hp => ?_⟩
    obtain ⟨cell, hcell, hcp, hlabel, -⟩ := cell_of_overlap hs hp
    rw [← hlabel]
    exact ⟨length_label hcell hcp, mem_label_iff hcell hcp⟩
  overlappedDuration := by
    rw [totalDuration_eq (joins_overlaps intervals).proper (joins_overlaps intervals).ascending]
    congr 2
    ext p
    exact covers_overlaps

/-! ## The order of the input -/

/-- Values sorted by themselves. -/
theorem sorted_perm {α : Type} [LinearOrder α] {l l' : List α} (h : l.Perm l') :
    l.mergeSort (fun a b => decide (a ≤ b)) = l'.mergeSort fun a b => decide (a ≤ b) :=
  show KeySort.sortBy (fun a b => decide (a ≤ b)) id l = KeySort.sortBy _ id l' from
    KeySort.sort_perm KeySort.order_le (fun _ _ _ _ heq => heq) h

theorem sortedRunIds_perm {l l' : List Int} (h : l.Perm l') : sortedRunIds l = sortedRunIds l' :=
  sorted_perm h

theorem intervalCells_perm {intervals intervals' : List AcceptedInterval}
    (h : intervals.Perm intervals') : intervalCells intervals = intervalCells intervals' := by
  have hboundaries : boundaries intervals = boundaries intervals' :=
    KeySort.sort_dedup_perm KeySort.order_le (h.flatMap_right _)
  have hactive : ∀ start stop,
      activeRunIds intervals start stop = activeRunIds intervals' start stop :=
    fun _ _ => sortedRunIds_perm ((h.filter _).map _)
  simp only [intervalCells, hboundaries, hactive]

/-- Rows of one run are told apart by their number, and by their states. -/
theorem classifyRunEvidence_perm {rows rows' : List CoverageRow} (h : rows.Perm rows')
    (runId : Int) (eligibleState : Text) :
    classifyRunEvidence runId rows eligibleState =
      classifyRunEvidence runId rows' eligibleState := by
  match rows, rows' with
  | [], [] => rfl
  | [row], [row'] => rw [List.singleton_perm_singleton.mp h]
  | _ :: _ :: _, _ :: _ :: _ =>
      unfold classifyRunEvidence candidateStates sortedTextValues
      rw [sorted_perm (h.filterMap fun row => recordedValue (Json.get row "state"))]
  | [], _ :: _ => exact absurd h.length_eq (by simp)
  | _ :: _, [] => exact absurd h.length_eq (by simp)
  | [_], _ :: _ :: _ => exact absurd h.length_eq (by simp)
  | _ :: _ :: _, [_] => exact absurd h.length_eq (by simp)

theorem coverageLayer_perm {rows rows' : List Json} (h : rows.Perm rows')
    (selectedRunIds : List Int) (streamKey coverageKind eligibleState providerSemantics : String) :
    coverageLayer selectedRunIds (.arr rows) streamKey coverageKind eligibleState
      providerSemantics =
      coverageLayer selectedRunIds (.arr rows') streamKey coverageKind eligibleState
        providerSemantics := by
  have hclassify : ∀ runId, classifyRunEvidence runId
      (rowsByRunId selectedRunIds (.arr rows) runId) eligibleState.toList =
      classifyRunEvidence runId (rowsByRunId selectedRunIds (.arr rows') runId)
        eligibleState.toList :=
    fun runId => classifyRunEvidence_perm (h.filterMap _) runId _
  simp only [coverageLayer, hclassify]

/-- The selected ids in another order. -/
theorem mapM_positiveRunId_perm {values values' : List Json} (h : values.Perm values') :
    Option.Rel List.Perm (values.mapM positiveRunId) (values'.mapM positiveRunId) := by
  induction h with
  | nil => exact .some .nil
  | cons value _ ih =>
      rw [List.mapM_cons, List.mapM_cons]
      cases positiveRunId value with
      | none => exact .none
      | some runId =>
          revert ih
          generalize List.mapM positiveRunId _ = runIds
          generalize List.mapM positiveRunId _ = runIds'
          intro ih
          cases ih with
          | none => exact .none
          | some hperm => exact .some (hperm.cons runId)
  | swap first second values =>
      simp only [List.mapM_cons]
      generalize values.mapM positiveRunId = runIds
      cases positiveRunId first <;> cases positiveRunId second <;> cases runIds <;>
        first | exact .none | exact .some (.swap _ _ _)
  | trans _ _ ih ih' =>
      revert ih ih'
      generalize List.mapM positiveRunId _ = a
      generalize List.mapM positiveRunId _ = b
      generalize List.mapM positiveRunId _ = c
      intro hab hbc
      cases hab with
      | none => exact hbc
      | some hab =>
          cases hbc with
          | some hbc => exact .some (hab.trans hbc)

theorem validateSelectedRunIds_perm {values values' : List Json} (h : values.Perm values') :
    validateSelectedRunIds (.arr values) = validateSelectedRunIds (.arr values') := by
  have hrel := mapM_positiveRunId_perm h
  simp only [validateSelectedRunIds, h.length_eq]
  revert hrel
  generalize List.mapM positiveRunId values = runIds
  generalize List.mapM positiveRunId values' = runIds'
  intro hrel
  cases hrel with
  | none => rfl
  | some hperm => simp only [hperm.dedup.length_eq, hperm.length_eq, sortedRunIds_perm hperm]

/-! ## The report -/

/-- The report of a layer is the sweep over its accepted intervals. -/
structure CoverageLayer.Reports (layer : CoverageLayer) (intervals : List AcceptedInterval) :
    Prop where
  accepted : layer.acceptedIntervals = intervals.map publicAcceptedInterval
  distinct : (intervals.map (·.runId)).Nodup
  union : layer.unionIntervals =
    (TonTracker.unionIntervals (intervalCells intervals)).map fun s =>
      publicInterval s.start s.stop
  overlaps : layer.overlapIntervals =
    (TonTracker.overlapIntervals (intervalCells intervals)).map publicOverlap
  gaps : layer.gapIntervals =
    (TonTracker.gapIntervals none (intervalCells intervals)).map publicGap
  span : layer.selectedSpan =
    (spanOf (TonTracker.unionIntervals (intervalCells intervals))).map fun bounds =>
      publicInterval bounds.1 bounds.2
  ofSpan : layer.spanDurationMicroseconds =
    strInt (spanDuration (spanOf (TonTracker.unionIntervals (intervalCells intervals))))
  ofUnion : layer.coveredDurationMicroseconds =
    strInt (totalDuration (TonTracker.unionIntervals (intervalCells intervals)))
  ofGaps : layer.gapDurationMicroseconds =
    strInt (totalDuration (TonTracker.gapIntervals none (intervalCells intervals)))
  ofOverlaps : layer.overlappedDurationMicroseconds =
    strInt (totalDuration (TonTracker.overlapIntervals (intervalCells intervals)))

open ExceptFold (bind_eq_ok)

theorem runId_of_normalizedInterval {runId : Int} {row : CoverageRow}
    {interval : AcceptedInterval} (h : normalizedInterval runId row = .ok (some interval)) :
    interval.runId = runId := by
  unfold normalizedInterval at h
  obtain ⟨start, -, h⟩ := bind_eq_ok.mp h
  obtain ⟨stop, -, h⟩ := bind_eq_ok.mp h
  split at h
  · split at h
    · cases h; rfl
    · cases h
  · cases h

/-- An accepted interval is one of the run it was looked up for. -/
theorem runId_of_classifyRunEvidence {runId : Int} {rows : List CoverageRow}
    {eligibleState : Text} {record : RunEvidenceRecord} {interval : AcceptedInterval}
    (h : classifyRunEvidence runId rows eligibleState = .ok (record, some interval)) :
    interval.runId = runId := by
  unfold classifyRunEvidence at h
  split at h
  case h_1 =>
    obtain ⟨_, -, h⟩ := bind_eq_ok.mp h
    cases h
  case h_2 =>
    dsimp only at h
    split at h
    · obtain ⟨_, -, h⟩ := bind_eq_ok.mp h
      cases h
    · split at h
      · obtain ⟨_, -, h⟩ := bind_eq_ok.mp h
        cases h
      · obtain ⟨normalized, hnormalized, h⟩ := bind_eq_ok.mp h
        cases normalized with
        | none =>
            obtain ⟨_, -, h⟩ := bind_eq_ok.mp h
            cases h
        | some accepted =>
            obtain ⟨_, -, h⟩ := bind_eq_ok.mp h
            cases h
            exact runId_of_normalizedInterval hnormalized
  case h_3 =>
    obtain ⟨_, -, h⟩ := bind_eq_ok.mp h
    cases h

/-- The accepted intervals are of distinct runs. -/
theorem distinct_of_classified {runIds : List Int} {rows : Int → List CoverageRow}
    {eligibleState : Text} {classified : List (RunEvidenceRecord × Option AcceptedInterval)}
    (distinct : runIds.Nodup)
    (h : runIds.mapM (fun runId => classifyRunEvidence runId (rows runId) eligibleState) =
      .ok classified) :
    ((classified.filterMap (·.2)).map (·.runId)).Nodup := by
  have hsublist : ((classified.filterMap (·.2)).map (·.runId)).Sublist runIds := by
    clear distinct
    induction ExceptFold.mapM_eq_ok.mp h with
    | nil => exact .slnil
    | @cons runId value runIds classified hvalue hrest ih =>
        have rest := ih (ExceptFold.mapM_eq_ok.mpr hrest)
        obtain ⟨record, interval⟩ := value
        cases interval with
        | none => exact rest.cons _
        | some interval =>
            have hrunId := runId_of_classifyRunEvidence hvalue
            show (interval.runId :: _).Sublist (runId :: runIds)
            rw [hrunId]
            exact rest.cons_cons _
  exact distinct.sublist hsublist

theorem sortIntervals_perm (intervals : List AcceptedInterval) :
    (sortIntervals intervals).Perm intervals := KeySort.sortBy_perm _ _ intervals

theorem coverageLayer_reports {runIds : List Int} {evidenceRows : Json}
    {streamKey coverageKind eligibleState providerSemantics : String} {layer : CoverageLayer}
    (distinct : runIds.Nodup)
    (h : coverageLayer runIds evidenceRows streamKey coverageKind eligibleState
      providerSemantics = .ok layer) :
    ∃ accepted, layer.Reports accepted := by
  unfold coverageLayer at h
  obtain ⟨classified, hclassified, h⟩ := bind_eq_ok.mp h
  cases h
  have hperm := (sortIntervals_perm (classified.filterMap (·.2))).map (·.runId)
  exact ⟨sortIntervals (classified.filterMap (·.2)), {
    accepted := by dsimp only
    distinct := hperm.nodup_iff.mpr (distinct_of_classified distinct hclassified)
    union := by dsimp only
    overlaps := by dsimp only
    gaps := by dsimp only
    span := by dsimp only
    ofSpan := by dsimp only
    ofUnion := by dsimp only
    ofGaps := by dsimp only
    ofOverlaps := by dsimp only }⟩

theorem nodup_of_validateSelectedRunIds {selectedRunIds : Json} {runIds : List Int}
    (h : validateSelectedRunIds selectedRunIds = .ok runIds) : runIds.Nodup := by
  unfold validateSelectedRunIds at h
  split at h
  case h_2 => cases h
  case h_1 values =>
    split at h
    case isFalse => cases h
    case isTrue =>
      split at h
      case h_1 => cases h
      case h_2 ids _ =>
        split at h
        case isTrue => cases h
        case isFalse hlength =>
          cases h
          have hdedup : ids.dedup = ids :=
            ids.dedup_sublist.eq_of_length (not_not.mp hlength)
          exact (List.mergeSort_perm _ _).nodup_iff.mpr (List.dedup_eq_self.mp hdedup)

/-- Two runs that share their middle microsecond, and one that touches
the second. -/
def sampleIntervals : List AcceptedInterval :=
  [⟨7, ⟨1, one_lt_maxMicros⟩, ⟨3, by decide⟩, by decide⟩, ⟨5, ⟨2, by decide⟩, ⟨4, by decide⟩, by decide⟩,
    ⟨9, ⟨4, by decide⟩, ⟨6, by decide⟩, by decide⟩]

end TonTracker
