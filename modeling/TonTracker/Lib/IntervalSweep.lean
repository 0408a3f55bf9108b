/-
# `Lib.IntervalSweep` — sweeping over half-open stretches

A sweep cuts a line at the endpoints of the given intervals, looks at one
piece at a time, and joins neighbouring pieces of one label.  The pieces
between two endpoints are uniform (`outside_of_mem_pieces`), together they
are everything between the first endpoint and the last (`covers_pieces`),
and joining changes neither the points of a label nor the order
(`joins_push`).  What is left over in a list of separated stretches is
maximal (`within_of_separated`), and where only finitely many points lie
between two of them, their lengths add up to the number of the points they
cover (`ncard_covered`).
-/
import Mathlib.Data.Set.Card
import Mathlib.Data.Set.Finite.Lattice
import Mathlib.Order.Interval.Finset.Basic

namespace IntervalSweep

universe u v

variable {τ : Type u} {κ : Type v}

/-- A half-open stretch `[start, stop)` and what is said about it. -/
structure Segment (τ : Type u) (κ : Type v) where
  start : τ
  stop : τ
  label : κ
deriving DecidableEq, Repr

variable [LinearOrder τ]

/-- The points of a stretch. -/
def Segment.Covers (s : Segment τ κ) (p : τ) : Prop := s.start ≤ p ∧ p < s.stop

/-- A stretch with points. -/
def Segment.Proper (s : Segment τ κ) : Prop := s.start < s.stop

/-- In order, and apart. -/
def Ascending (l : List (Segment τ κ)) : Prop := l.Pairwise fun a b => a.stop ≤ b.start

/-- In order, with a point between each two. -/
def Separated (l : List (Segment τ κ)) : Prop := l.Pairwise fun a b => a.stop < b.start

theorem Separated.ascending {l : List (Segment τ κ)} (h : Separated l) : Ascending l :=
  h.imp le_of_lt

/-! ## Between the endpoints -/

/-- The pieces between neighbouring points of a list. -/
def pieces (points : List τ) : List (Segment τ Unit) :=
  (points.zip points.tail).map fun (start, stop) => ⟨start, stop, ()⟩

omit [LinearOrder τ] in
theorem pieces_cons_cons (a b : τ) (points : List τ) :
    pieces (a :: b :: points) = ⟨a, b, ()⟩ :: pieces (b :: points) := rfl

theorem proper_of_mem_pieces {points : List τ} (sorted : points.Pairwise (· < ·)) :
    ∀ s ∈ pieces points, s.Proper := by
  induction points with
  | nil => exact fun s hs => absurd hs List.not_mem_nil
  | cons a points ih =>
      cases points with
      | nil => exact fun s hs => absurd hs List.not_mem_nil
      | cons b points =>
          obtain ⟨first, rest⟩ := List.pairwise_cons.mp sorted
          intro s hs
          rw [pieces_cons_cons] at hs
          rcases List.mem_cons.mp hs with rfl | hs
          · exact first b List.mem_cons_self
          · exact ih rest s hs

omit [LinearOrder τ] in
theorem mem_of_mem_pieces {points : List τ} :
    ∀ s ∈ pieces points, s.start ∈ points ∧ s.stop ∈ points := by
  induction points with
  | nil => exact fun s hs => absurd hs List.not_mem_nil
  | cons a points ih =>
      cases points with
      | nil => exact fun s hs => absurd hs List.not_mem_nil
      | cons b points =>
          intro s hs
          rw [pieces_cons_cons] at hs
          rcases List.mem_cons.mp hs with rfl | hs
          · exact ⟨List.mem_cons_self, List.mem_cons_of_mem _ List.mem_cons_self⟩
          · exact ⟨List.mem_cons_of_mem _ (ih s hs).1, List.mem_cons_of_mem _ (ih s hs).2⟩

/-- No endpoint lies inside a piece. -/
theorem outside_of_mem_pieces {points : List τ} (sorted : points.Pairwise (· < ·)) :
    ∀ s ∈ pieces points, ∀ x ∈ points, x ≤ s.start ∨ s.stop ≤ x := by
  induction points with
  | nil => exact fun s hs => absurd hs List.not_mem_nil
  | cons a points ih =>
      cases points with
      | nil => exact fun s hs => absurd hs List.not_mem_nil
      | cons b points =>
          obtain ⟨first, rest⟩ := List.pairwise_cons.mp sorted
          intro s hs x hx
          rw [pieces_cons_cons] at hs
          rcases List.mem_cons.mp hs with rfl | later
          · rcases List.mem_cons.mp hx with rfl | hx
            · exact .inl le_rfl
            · rcases List.mem_cons.mp hx with rfl | hx
              · exact .inr le_rfl
              · exact .inr (le_of_lt ((List.pairwise_cons.mp rest).1 x hx))
          · rcases List.mem_cons.mp hx with rfl | hx
            · exact .inl (le_of_lt (first _ (mem_of_mem_pieces s later).1))
            · exact ih rest s later x hx

omit [LinearOrder τ] in
/-- Each piece starts where the one before it stops. -/
theorem chain_pieces (points : List τ) :
    (pieces points).IsChain fun a b => a.stop = b.start := by
  induction points with
  | nil => exact .nil
  | cons a points ih =>
      cases points with
      | nil => exact .nil
      | cons b points =>
          rw [pieces_cons_cons]
          cases points with
          | nil => exact .singleton _
          | cons c points => exact .cons_cons rfl ih

theorem ascending_pieces {points : List τ} (sorted : points.Pairwise (· < ·)) :
    Ascending (pieces points) := by
  induction points with
  | nil => exact .nil
  | cons a points ih =>
      cases points with
      | nil => exact .nil
      | cons b points =>
          obtain ⟨-, rest⟩ := List.pairwise_cons.mp sorted
          rw [pieces_cons_cons]
          refine List.pairwise_cons.mpr ⟨fun s hs => ?_, ih rest⟩
          rcases List.mem_cons.mp (mem_of_mem_pieces s hs).1 with h | h
          · exact le_of_eq h.symm
          · exact le_of_lt ((List.pairwise_cons.mp rest).1 _ h)

/-- The pieces are everything between two endpoints. -/
theorem covers_pieces {points : List τ} (sorted : points.Pairwise (· < ·)) {p : τ} :
    (∃ s ∈ pieces points, s.Covers p) ↔ (∃ x ∈ points, x ≤ p) ∧ ∃ y ∈ points, p < y := by
  constructor
  · rintro ⟨s, hs, hp⟩
    obtain ⟨hstart, hstop⟩ := mem_of_mem_pieces s hs
    exact ⟨⟨_, hstart, hp.1⟩, _, hstop, hp.2⟩
  induction points with
  | nil => exact fun ⟨⟨_, h, _⟩, _⟩ => absurd h List.not_mem_nil
  | cons a points ih =>
      rintro ⟨⟨x, hx, hxp⟩, y, hy, hpy⟩
      obtain ⟨first, rest⟩ := List.pairwise_cons.mp sorted
      have hap : a ≤ p := by
        rcases List.mem_cons.mp hx with rfl | hx
        · exact hxp
        · exact (le_of_lt (first x hx)).trans hxp
      have hy : y ∈ points := by
        rcases List.mem_cons.mp hy with rfl | hy
        · exact absurd hpy hap.not_gt
        · exact hy
      cases points with
      | nil => exact absurd hy List.not_mem_nil
      | cons b points =>
          rw [pieces_cons_cons]
          by_cases hbp : b ≤ p
          · obtain ⟨s, hs, hp⟩ := ih rest ⟨⟨b, List.mem_cons_self, hbp⟩, y, hy, hpy⟩
            exact ⟨s, List.mem_cons_of_mem _ hs, hp⟩
          · exact ⟨_, List.mem_cons_self, hap, lt_of_not_ge hbp⟩

/-! ## Joining neighbours -/

/-- Stretches that touch, one after the other, are one stretch. -/
theorem covers_chain {first : Segment τ κ} {rest : List (Segment τ κ)}
    (chain : (first :: rest).IsChain fun a b => a.stop = b.start)
    (proper : ∀ s ∈ first :: rest, s.Proper) {p : τ} :
    (∃ s ∈ first :: rest, s.Covers p) ↔
      first.start ≤ p ∧ p < ((first :: rest).getLast (List.cons_ne_nil _ _)).stop := by
  induction rest generalizing first p with
  | nil => simp [Segment.Covers]
  | cons second rest ih =>
      obtain ⟨touch, chain⟩ := List.isChain_cons_cons.mp chain
      have hproper := proper first List.mem_cons_self
      have hsecond := fun {p} => ih (p := p) chain fun s hs =>
        proper s (List.mem_cons_of_mem _ hs)
      have hlast : second.start < ((second :: rest).getLast (List.cons_ne_nil _ _)).stop :=
        (hsecond.mp ⟨second, List.mem_cons_self, le_rfl,
          proper second (List.mem_cons_of_mem _ List.mem_cons_self)⟩).2
      rw [List.getLast_cons (List.cons_ne_nil _ _)]
      constructor
      · rintro ⟨s, hs, hp⟩
        rcases List.mem_cons.mp hs with rfl | hs
        · exact ⟨hp.1, hp.2.trans (touch ▸ hlast)⟩
        · obtain ⟨hle, hlt⟩ := hsecond.mp ⟨s, hs, hp⟩
          exact ⟨(le_of_lt hproper).trans (touch ▸ hle), hlt⟩
      · rintro ⟨hle, hlt⟩
        by_cases hp : p < first.stop
        · exact ⟨first, List.mem_cons_self, hle, hp⟩
        · obtain ⟨s, hs, hcovers⟩ := hsecond.mpr ⟨touch ▸ le_of_not_gt hp, hlt⟩
          exact ⟨s, List.mem_cons_of_mem _ hs, hcovers⟩

/-- The next piece of a sweep: it makes the last stretch longer where it
touches it under the same label. -/
def push [DecidableEq κ] (segments : List (Segment τ κ)) (cell : Segment τ κ) :
    List (Segment τ κ) :=
  match segments.getLast? with
  | some last =>
      if last.stop = cell.start ∧ last.label = cell.label then
        segments.dropLast ++ [{ last with stop := cell.stop }]
      else segments ++ [cell]
  | none => [cell]

/-- What joining keeps of the pieces it has seen. -/
structure Joins (seen segments : List (Segment τ κ)) : Prop where
  covers : ∀ p k, (∃ s ∈ segments, s.label = k ∧ s.Covers p) ↔
    ∃ s ∈ seen, s.label = k ∧ s.Covers p
  proper : ∀ s ∈ segments, s.Proper
  chain : segments.IsChain fun a b =>
    a.stop < b.start ∨ a.stop = b.start ∧ a.label ≠ b.label
  within : ∀ s ∈ segments, ∃ t ∈ seen, s.stop = t.stop

theorem joins_nil : Joins ([] : List (Segment τ κ)) [] where
  covers _ _ := Iff.rfl
  proper := fun _ h => absurd h List.not_mem_nil
  chain := .nil
  within := fun _ h => absurd h List.not_mem_nil

variable [DecidableEq κ]

theorem push_append (init : List (Segment τ κ)) (last cell : Segment τ κ) :
    push (init ++ [last]) cell =
      if last.stop = cell.start ∧ last.label = cell.label then
        init ++ [{ last with stop := cell.stop }]
      else init ++ [last] ++ [cell] := by
  unfold push
  rw [List.getLast?_concat, List.dropLast_concat]

theorem joins_push {seen segments : List (Segment τ κ)} {cell : Segment τ κ}
    (h : Joins seen segments) (proper : cell.Proper)
    (after : ∀ s ∈ seen, s.stop ≤ cell.start) :
    Joins (seen ++ [cell]) (push segments cell) := by
  have later : ∀ s ∈ segments, s.stop ≤ cell.start := fun s hs => by
    obtain ⟨t, ht, hst⟩ := h.within s hs
    exact hst ▸ after t ht
  rcases List.eq_nil_or_concat' segments with rfl | ⟨init, last, rfl⟩
  · have hnone : ∀ p k, ¬ ∃ s ∈ seen, s.label = k ∧ s.Covers p := fun p k hs => by
      obtain ⟨s, hs, -⟩ := (h.covers p k).mpr hs
      exact List.not_mem_nil hs
    refine ⟨fun p k => ?_, fun s hs => List.mem_singleton.mp hs ▸ proper, .singleton _,
      fun s hs => ⟨cell, List.mem_append_right _ List.mem_cons_self,
        List.mem_singleton.mp hs ▸ rfl⟩⟩
    have := hnone p k
    simp only [push, List.getLast?_nil, List.mem_singleton, List.mem_append, or_and_right,
      exists_or, exists_eq_left]
    exact (or_iff_right this).symm
  · have hlast : last ∈ init ++ [last] := List.mem_append_right _ List.mem_cons_self
    have lastProper := h.proper last hlast
    rw [push_append]
    by_cases hjoin : last.stop = cell.start ∧ last.label = cell.label
    · rw [if_pos hjoin]
      obtain ⟨touch, same⟩ := hjoin
      have grown : ∀ p, ({ last with stop := cell.stop } : Segment τ κ).Covers p ↔
          last.Covers p ∨ cell.Covers p := by
        intro p
        have hproper : cell.start < cell.stop := proper
        have hlt : last.start < last.stop := lastProper
        simp only [Segment.Covers]
        constructor
        · rintro ⟨hle, hlt⟩
          rcases lt_or_ge p last.stop with hp | hp
          · exact .inl ⟨hle, hp⟩
          · exact .inr ⟨touch ▸ hp, hlt⟩
        · rintro (⟨hle, hp⟩ | ⟨hle, hp⟩)
          · exact ⟨hle, hp.trans (touch ▸ hproper)⟩
          · exact ⟨(le_of_lt hlt).trans (touch ▸ hle), hp⟩
      refine ⟨fun p k => ?_, fun s hs => ?_, ?_, fun s hs => ?_⟩
      · have hcovers := h.covers p k
        simp only [List.mem_append, List.mem_singleton, or_and_right, exists_or,
          exists_eq_left] at hcovers ⊢
        rw [grown p, ← hcovers, and_or_left, ← same, or_assoc]
      · rcases List.mem_append.mp hs with hs | hs
        · exact h.proper s (List.mem_append_left _ hs)
        · rw [List.mem_singleton.mp hs]
          exact lastProper.trans (touch ▸ proper)
      · have chain := List.isChain_append.mp h.chain
        refine List.isChain_append.mpr ⟨chain.1, .singleton _, fun a ha b hb => ?_⟩
        obtain rfl := Option.some.inj hb
        exact chain.2.2 a ha last rfl
      · rcases List.mem_append.mp hs with hs | hs
        · obtain ⟨t, ht, hst⟩ := h.within s (List.mem_append_left _ hs)
          exact ⟨t, List.mem_append_left _ ht, hst⟩
        · exact ⟨cell, List.mem_append_right _ List.mem_cons_self,
            List.mem_singleton.mp hs ▸ rfl⟩
    · rw [if_neg hjoin]
      refine ⟨fun p k => ?_, fun s hs => ?_, ?_, fun s hs => ?_⟩
      · have hcovers := h.covers p k
        simp only [List.mem_append (s := init ++ [last]), List.mem_append (s := seen),
          or_and_right, exists_or, hcovers]
      · rcases List.mem_append.mp hs with hs | hs
        · exact h.proper s hs
        · exact List.mem_singleton.mp hs ▸ proper
      · refine List.isChain_append.mpr ⟨h.chain, .singleton _, fun a ha b hb => ?_⟩
        rw [List.getLast?_concat] at ha
        obtain rfl := Option.some.inj ha
        obtain rfl := Option.some.inj hb
        rcases lt_or_eq_of_le (later _ hlast) with hlt | heq
        · exact .inl hlt
        · exact .inr ⟨heq, fun hlabel => hjoin ⟨heq, hlabel⟩⟩
      · rcases List.mem_append.mp hs with hs | hs
        · obtain ⟨t, ht, hst⟩ := h.within s hs
          exact ⟨t, List.mem_append_left _ ht, hst⟩
        · exact ⟨cell, List.mem_append_right _ List.mem_cons_self,
            List.mem_singleton.mp hs ▸ rfl⟩

/-- Joining a whole list in order. -/
theorem joins_foldl (cells : List (Segment τ κ)) {seen segments : List (Segment τ κ)}
    (h : Joins seen segments) (proper : ∀ s ∈ cells, s.Proper)
    (ascending : Ascending (seen ++ cells)) :
    Joins (seen ++ cells) (cells.foldl push segments) := by
  induction cells generalizing seen segments with
  | nil => rwa [List.append_nil]
  | cons cell cells ih =>
      have after : ∀ s ∈ seen, s.stop ≤ cell.start := fun s hs =>
        (List.pairwise_append.mp ascending).2.2 s hs cell List.mem_cons_self
      rw [List.foldl_cons, List.append_cons]
      rw [List.append_cons] at ascending
      exact ih (joins_push h (proper cell List.mem_cons_self) after)
        (fun s hs => proper s (List.mem_cons_of_mem _ hs)) ascending

omit [DecidableEq κ]

/-- What holds between neighbours holds between any two, where it survives a
stretch in between. -/
theorem pairwise_of_chain {R : τ → τ → Prop}
    (skip : ∀ {a b c d : τ}, R a b → b < c → R c d → R a d) {l : List (Segment τ κ)}
    (proper : ∀ s ∈ l, s.Proper) (chain : l.IsChain fun a b => R a.stop b.start) :
    l.Pairwise fun a b => R a.stop b.start := by
  induction l with
  | nil => exact .nil
  | cons a l ih =>
      have rest := ih (fun s hs => proper s (List.mem_cons_of_mem _ hs)) chain.tail
      refine List.pairwise_cons.mpr ⟨fun s hs => ?_, rest⟩
      cases l with
      | nil => exact absurd hs List.not_mem_nil
      | cons b l =>
          have hab := (List.isChain_cons_cons.mp chain).1
          rcases List.mem_cons.mp hs with rfl | hs
          · exact hab
          · exact skip hab (proper b (List.mem_cons_of_mem _ List.mem_cons_self))
              ((List.pairwise_cons.mp rest).1 s hs)

theorem Joins.ascending {seen segments : List (Segment τ κ)} (h : Joins seen segments) :
    Ascending segments :=
  pairwise_of_chain (fun hab hbc hcd => hab.trans (hbc.le.trans hcd)) h.proper
    (h.chain.imp fun _ _ hab => hab.elim le_of_lt fun h => h.1.le)

/-- Under one label the joined stretches are apart. -/
theorem Joins.separated {seen segments : List (Segment τ κ)} (h : Joins seen segments)
    (same : ∀ a ∈ segments, ∀ b ∈ segments, a.label = b.label) : Separated segments := by
  refine pairwise_of_chain (fun hab hbc hcd => hab.trans (hbc.trans hcd)) h.proper ?_
  refine List.IsChain.imp_of_mem_imp ?_ h.chain
  rintro a b ha hb (hlt | ⟨-, hne⟩)
  · exact hlt
  · exact absurd (same a ha b hb) hne

/-! ## Points and lengths -/

/-- Of two members of a list, one comes before the other. -/
theorem eq_or_related {α : Type u} {R : α → α → Prop} {l : List α} (h : l.Pairwise R) {a b : α}
    (ha : a ∈ l) (hb : b ∈ l) : a = b ∨ R a b ∨ R b a := by
  have symm : Std.Symm fun x y => R x y ∨ R y x := ⟨fun _ _ => Or.symm⟩
  by_cases hab : a = b
  · exact .inl hab
  · exact .inr ((h.imp Or.inl : l.Pairwise fun x y => R x y ∨ R y x).forall ha hb hab)

/-- A stretch whose points are all covered lies within one of the separated
stretches that cover them. -/
theorem within_of_separated {l : List (Segment τ κ)} (separated : Separated l) {a b : τ}
    (hab : a < b) (covered : ∀ p, a ≤ p → p < b → ∃ s ∈ l, s.Covers p) :
    ∃ s ∈ l, s.start ≤ a ∧ b ≤ s.stop := by
  obtain ⟨s, hs, hsa, has⟩ := covered a le_rfl hab
  refine ⟨s, hs, hsa, le_of_not_gt fun hlt => ?_⟩
  obtain ⟨t, ht, hts, hst⟩ := covered s.stop has.le hlt
  rcases eq_or_related separated hs ht with rfl | h | h
  · exact lt_irrefl _ hst
  · exact absurd hts h.not_ge
  · exact absurd (hsa.trans_lt has) (hst.trans h).not_gt

variable [LocallyFiniteOrder τ]

/-- How many points a stretch has. -/
def Segment.length (s : Segment τ κ) : Nat := (Finset.Ico s.start s.stop).card

theorem Segment.mem_Ico {s : Segment τ κ} {p : τ} :
    p ∈ Finset.Ico s.start s.stop ↔ s.Covers p := Finset.mem_Ico

/-- The lengths of ascending stretches add up to the number of the points
they cover. -/
theorem ncard_covered {l : List (Segment τ κ)} (ascending : Ascending l) :
    {p | ∃ s ∈ l, s.Covers p}.ncard = (l.map Segment.length).sum := by
  have finite : ∀ l : List (Segment τ κ), {p | ∃ s ∈ l, s.Covers p}.Finite := by
    intro l
    have points : ∀ s ∈ {s | s ∈ l}, (↑(Finset.Ico s.start s.stop) : Set τ).Finite :=
      fun s _ => Finset.finite_toSet _
    refine (Set.Finite.biUnion l.finite_toSet points).subset ?_
    rintro p ⟨s, hs, hp⟩
    exact Set.mem_biUnion hs (Finset.mem_coe.mpr (Segment.mem_Ico.mpr hp))
  induction l with
  | nil => simp
  | cons s l ih =>
      obtain ⟨first, rest⟩ := List.pairwise_cons.mp ascending
      have split : {p | ∃ t ∈ s :: l, t.Covers p} =
          ↑(Finset.Ico s.start s.stop) ∪ {p | ∃ t ∈ l, t.Covers p} := by
        ext p
        simp [Segment.Covers]
      have apart : Disjoint (↑(Finset.Ico s.start s.stop) : Set τ) {p | ∃ t ∈ l, t.Covers p} := by
        rw [Set.disjoint_left]
        rintro p hp ⟨t, ht, htp⟩
        exact absurd ((Segment.mem_Ico.mp hp).2.trans_le (first t ht)) htp.1.not_gt
      rw [split, Set.ncard_union_eq apart (Finset.finite_toSet _) (finite l),
        Set.ncard_coe_finset, ih rest, List.map_cons, List.sum_cons]
      rfl

end IntervalSweep
