/-
# `Histories.ReadOnce` — the two histories of a case, read once

The checkpoints of a case and its outcomes are journals in the sense of
`Histories.Pages`: the newest row of the first page bounds them, and no
transaction but the deletion of the case changes a row up to it.  Following
the cursors therefore lists each row once (`histories_read_once`), unless a
row cannot be verified: a page that would show one is refused, and a
schedule that was accepted behind a publication leaves such a row.
-/
import Mathlib.Data.List.Chain
import TonTracker.Histories.Pages

namespace TonTracker

open Relational (Table)
open Session (World Run Move Reaches)
open ExceptFold (bind_eq_ok check_eq_ok present_eq_ok eq_ok_of_toOption)

theorem mem_listing {α : Type} {t : Table α} {p : α → Bool} {row : Nat × α} :
    row ∈ (t.select fun _ value => p value).reverse ↔
      t.get? row.1 = some row.2 ∧ p row.2 = true :=
  List.mem_reverse.trans t.mem_select

/-- Nothing is newer than the newest. -/
theorem le_newest {α : Type} {t : Table α} {p : α → Bool} {cutoff : Nat × α}
    (h : (t.select fun _ value => p value).reverse.head? = some cutoff) (id : Nat) (value : α)
    (hvalue : t.get? id = some value) (hp : p value = true) : id ≤ cutoff.1 :=
  (t.latest?_eq_some ((t.latest?_eq_head _).trans h)).2 id value hvalue hp

section Instances

variable {caseId : Nat} {s s' : Store} {sha : Sha256} {casePublicId : Uuid}

/-- The checkpoints of a case, newest first. -/
def Store.checkpointListing (s : Store) (caseId : Nat) : List (Nat × CheckpointRow) :=
  (s.checkpoints.select fun _ c => decide (c.caseId = caseId)).reverse

/-- The syncs of a case that have an outcome, newest first. -/
def Store.outcomeListing (s : Store) (caseId : Nat) : List (Nat × SyncRow) :=
  (s.syncs.select fun _ row => Store.outcomeEligible caseId row).reverse

theorem checkpoints_frozen (h : CaseKept caseId s s') {cutoff : Nat × CheckpointRow}
    (hcutoff : (s.checkpointListing caseId).head? = some cutoff) :
    FrozenTable (fun c : CheckpointRow => decide (c.caseId = caseId)) cutoff.1
      s.checkpoints s'.checkpoints where
  upTo id c hid hcase := by
    obtain ⟨hstored, hof⟩ := mem_listing.mp (List.mem_of_mem_head? hcutoff)
    exact checkpoint_upTo h hstored (of_decide_eq_true hof) hid (of_decide_eq_true hcase)
  all := le_newest hcutoff

theorem outcomeEligible_iff {row : SyncRow} : Store.outcomeEligible caseId row = true ↔
    row.caseId = caseId ∧ row.state.usable = true ∧ row.plan.version = 6 := by
  unfold Store.outcomeEligible
  simp only [Bool.and_eq_true, decide_eq_true_eq, and_assoc]

theorem syncs_frozen (h : CaseKept caseId s s') {cutoff : Nat × SyncRow}
    (hcutoff : (s.outcomeListing caseId).head? = some cutoff) :
    FrozenTable (Store.outcomeEligible caseId) cutoff.1 s.syncs s'.syncs where
  upTo id row hid heligible := by
    obtain ⟨hstored, hof⟩ := mem_listing.mp (List.mem_of_mem_head? hcutoff)
    obtain ⟨hcase, husable, -⟩ := outcomeEligible_iff.mp hof
    exact (h.pinned cutoff.1 cutoff.2 hstored hcase (ended_of_usable husable)).sources id row hid
      ((outcomeEligible_iff.mp heligible).1.trans hcase.symm)
  all := le_newest hcutoff

theorem descriptor_of_response {c : CheckpointRow} {response : VerifiedCheckpoint}
    (h : streamCheckpointResponse sha s casePublicId c = .ok response) :
    response.descriptor.publicId = c.publicId := by
  unfold streamCheckpointResponse at h
  obtain ⟨_, -, h⟩ := bind_eq_ok.mp h
  obtain ⟨source, -, h⟩ := bind_eq_ok.mp h
  obtain ⟨_, -, h⟩ := bind_eq_ok.mp h
  obtain ⟨plan, -, h⟩ := bind_eq_ok.mp h
  obtain ⟨manifest, -, h⟩ := bind_eq_ok.mp h
  obtain ⟨_, -, h⟩ := bind_eq_ok.mp h
  obtain ⟨_, -, h⟩ := bind_eq_ok.mp h
  cases h
  rfl

/-- The first revision of a descent is the one it starts from. -/
theorem head_of_descent {remaining : Nat} {seen : List HexDigest}
    {current : Nat × CheckpointRow} {links : List ChainLink}
    (h : descendCheckpointChain sha s caseId casePublicId remaining seen current = .ok links) :
    ∃ link rest, links = link :: rest ∧ link.descriptor.publicId = current.2.publicId := by
  cases remaining with
  | zero => cases h
  | succ remaining =>
      rw [descendCheckpointChain] at h
      obtain ⟨_, -, h⟩ := bind_eq_ok.mp h
      obtain ⟨response, hresponse, h⟩ := bind_eq_ok.mp h
      have named := descriptor_of_response hresponse
      dsimp only at h
      split at h
      · cases h
        exact ⟨_, [], rfl, named⟩
      · obtain ⟨_, -, h⟩ := bind_eq_ok.mp h
        cases h
        exact ⟨_, [], rfl, named⟩
      · obtain ⟨parent, -, h⟩ := bind_eq_ok.mp h
        obtain ⟨_, -, h⟩ := bind_eq_ok.mp h
        obtain ⟨rest, -, h⟩ := bind_eq_ok.mp h
        cases h
        exact ⟨_, rest, rfl, named⟩

/-- The last revision of a chain is the one that was asked for. -/
theorem tip_of_chain {current : Nat × CheckpointRow} {chain : Chain}
    (h : verifiedStreamCheckpointChain sha s caseId casePublicId current = .ok chain) :
    chain.tip.descriptor.publicId = current.2.publicId := by
  unfold verifiedStreamCheckpointChain at h
  obtain ⟨links, hlinks, h⟩ := bind_eq_ok.mp h
  obtain ⟨link, rest, rfl, named⟩ := head_of_descent hlinks
  split at h
  · cases h
    unfold Chain.tip
    simp only [List.reverse_cons, List.getLast_append_singleton]
    exact named
  · cases h

/-- The checkpoints as a journal. -/
theorem checkpoints_journalled :
    Journalled (streamCheckpointHistory sha) (·.checkpoint.publicId) caseId s
      (s.checkpointListing caseId) where
  descending := Table.select_descending _ _
  maximum := Nat.le_of_ble_eq_true rfl
  newest := Table.latest?_eq_head _ _
  serves s' cutoff h hhead := by
    have frozen := checkpoints_frozen h hhead
    refine ⟨fun after limit => ?_, frozen.rowcount, fun r hr => ?_, fun r hr => ?_⟩
    · exact congrArg (·.take limit) (frozen.select after)
    · obtain ⟨hstored, hcase⟩ := mem_listing.mp hr
      exact (streamCheckpoint?_eq_some h.owned').mpr
        ⟨h.kept r.1 r.2 hstored (of_decide_eq_true hcase), of_decide_eq_true hcase, rfl⟩
    · obtain ⟨hstored, hcase⟩ := mem_listing.mp hr
      exact frozen.all r.1 r.2 hstored hcase
  kept s' casePublicId h r hr item hitem := by
    obtain ⟨hstored, hcase⟩ := mem_listing.mp hr
    change checkpointHistoryItem sha s' caseId casePublicId r = .ok item
    unfold checkpointHistoryItem
    rw [chain_kept h hstored (of_decide_eq_true hcase)]
    exact hitem
  named s' casePublicId r item hitem := by
    obtain ⟨chain, hchain, hitem⟩ := bind_eq_ok.mp hitem
    cases hitem
    exact tip_of_chain hchain
  admits _ _ _ _ _ := rfl

theorem acquisitionPlan_of_verified {row : SyncRow} {message : String} {plan : Plan}
    (h : row.verifiedPlan message = .ok plan) : row.acquisitionPlan = .ok plan := by
  unfold SyncRow.verifiedPlan at h
  split at h
  case h_1 plan' hplan =>
    cases h
    exact hplan
  all_goals cases h

theorem version_of_scheduleBound {plan : Plan} {found : ResumePlan Uuid HexDigest × ScheduleBinding}
    (h : plan.scheduleBound = some found) : plan.version = 6 := by
  unfold AcquisitionPlan.scheduleBound at h
  obtain ⟨resume, hresume, h⟩ := Option.bind_eq_some_iff.mp h
  obtain ⟨bound, hbound, -⟩ := Option.map_eq_some_iff.mp h
  have hmode : plan.mode = .resume resume := by
    unfold AcquisitionPlan.resume? at hresume
    split at hresume
    · cases hresume
      assumption
    · cases hresume
  have hauthority : ∃ a b c d e, resume.authority = .schedule a b c d e := by
    unfold ResumeAuthority.scheduleBinding at hbound
    split at hbound
    · exact ⟨_, _, _, _, _, ‹_›⟩
    · cases hbound
  obtain ⟨a, b, c, d, e, hauthority⟩ := hauthority
  unfold AcquisitionPlan.version
  rw [hmode]
  dsimp only
  rw [hauthority]

/-- What an outcome was read of. -/
theorem outcome_of_item {sync : Nat × SyncRow} {outcome : Addressed OutcomeDocument}
    (h : backfillOutcome sha s caseId casePublicId sync = .ok outcome) :
    outcome.document.syncPublicId = sync.2.publicId ∧
      isBackfillOutcomeHistorySync sync.2 = .ok true := by
  unfold backfillOutcome at h
  obtain ⟨plan, hplan, h⟩ := bind_eq_ok.mp h
  obtain ⟨⟨resume, bound⟩, hbound, h⟩ := bind_eq_ok.mp h
  obtain ⟨_, husable, h⟩ := bind_eq_ok.mp h
  obtain ⟨receipt, -, h⟩ := bind_eq_ok.mp h
  obtain ⟨_, -, h⟩ := bind_eq_ok.mp h
  obtain ⟨⟨input, output⟩, -, h⟩ := bind_eq_ok.mp h
  obtain ⟨inputProgress, -, h⟩ := bind_eq_ok.mp h
  obtain ⟨inputPlan, -, h⟩ := bind_eq_ok.mp h
  obtain ⟨inputSchedule, -, h⟩ := bind_eq_ok.mp h
  obtain ⟨outputProgress, -, h⟩ := bind_eq_ok.mp h
  obtain ⟨_, -, h⟩ := bind_eq_ok.mp h
  obtain ⟨selection, -, h⟩ := bind_eq_ok.mp h
  obtain ⟨⟨before, after⟩, -, h⟩ := bind_eq_ok.mp h
  obtain ⟨_, -, h⟩ := bind_eq_ok.mp h
  cases h
  refine ⟨rfl, ?_⟩
  have hversion : plan.version = 6 := version_of_scheduleBound (present_eq_ok.mp hbound)
  unfold isBackfillOutcomeHistorySync
  rw [if_pos (check_eq_ok.mp husable), acquisitionPlan_of_verified hplan]
  exact congrArg Except.ok (decide_eq_true hversion)

/-- The outcomes as a journal. -/
theorem outcomes_journalled : Journalled (backfillOutcomeHistory sha)
    (·.outcome.document.syncPublicId) caseId s (s.outcomeListing caseId) where
  descending := Table.select_descending _ _
  maximum := Nat.le_of_ble_eq_true rfl
  newest := Table.latest?_eq_head _ _
  serves s' cutoff h hhead := by
    have frozen := syncs_frozen h hhead
    have stored : ∀ r ∈ s.outcomeListing caseId, s'.syncs.get? r.1 = some r.2 ∧
        r.2.caseId = caseId ∧ r.1 ≤ cutoff.1 := by
      intro r hr
      obtain ⟨hstored, heligible⟩ := mem_listing.mp hr
      have hid := frozen.all r.1 r.2 hstored heligible
      exact ⟨(frozen.upTo r.1 r.2 hid heligible).mpr hstored,
        (outcomeEligible_iff.mp heligible).1, hid⟩
    refine ⟨fun after limit => ?_, frozen.rowcount, fun r hr => ?_, fun r hr => (stored r hr).2.2⟩
    · exact congrArg (·.take limit) (frozen.select after)
    · exact (sync?_eq_some h.ids').mpr ⟨(stored r hr).1, (stored r hr).2.1, rfl⟩
  kept s' casePublicId h r hr item hitem := by
    obtain ⟨hstored, heligible⟩ := mem_listing.mp hr
    obtain ⟨completedAt, hcompleted, hitem⟩ := bind_eq_ok.mp hitem
    obtain ⟨outcome, houtcome, hitem⟩ := bind_eq_ok.mp hitem
    exact bind_eq_ok.mpr ⟨completedAt, hcompleted, bind_eq_ok.mpr ⟨outcome,
      backfillOutcome_kept h hstored (outcomeEligible_iff.mp heligible).1 houtcome, hitem⟩⟩
  named s' casePublicId r item hitem := by
    obtain ⟨completedAt, -, hitem⟩ := bind_eq_ok.mp hitem
    obtain ⟨outcome, houtcome, hitem⟩ := bind_eq_ok.mp hitem
    cases hitem
    exact (outcome_of_item houtcome).1
  admits s' casePublicId r item hitem := by
    obtain ⟨completedAt, -, hitem⟩ := bind_eq_ok.mp hitem
    obtain ⟨outcome, houtcome, -⟩ := bind_eq_ok.mp hitem
    exact (outcome_of_item houtcome).2

end Instances

/-! ## Whole histories -/

section Whole

variable {sha : Sha256} {Id Row Item : Type} {h : History Id Row Item} {itemId : Item → Id}
  {world : World (caseSystem sha)} {owner : Text} {casePublicId : Uuid} {caseId : Nat}
  {rows : List (Nat × Row)}

/-- A later state, while the case is not deleted. -/
abbrev CaseLater (caseId : Nat) : World (caseSystem sha) → World (caseSystem sha) → Prop :=
  Run (KeepsCase caseId)

/-- The requests of one reader: a first page, and every later one at a later
state. -/
def requestsOf (world : World (caseSystem sha)) (limit : Nat)
    (later : List (World (caseSystem sha) × Nat)) : List (Store × Nat) :=
  (world.state, limit) :: later.map fun request => (request.1.state, request.2)

/-- A journal is read once: whatever pages are returned list it, and all of
them are returned exactly where its rows can be verified. -/
structure ReadOnce (h : History Id Row Item) (itemId : Item → Id)
    (world : World (caseSystem sha)) (owner : Text) (casePublicId : Uuid) (caseId : Nat)
    (rows : List (Nat × Row)) : Prop where
  descending : rows.Pairwise fun a b => b.1 < a.1
  listed : ∀ limit later,
    (world :: later.map (·.1)).IsChain (CaseLater caseId) →
    ∀ pages left, h.follow owner casePublicId (requestsOf world limit later) none =
        .ok (pages, left) →
      HistoryListed h itemId caseId casePublicId rows none (requestsOf world limit later) pages left
  served : (∀ limit later,
      (world :: later.map (·.1)).IsChain (CaseLater caseId) →
      (∀ request ∈ requestsOf world limit later, 1 ≤ request.2 ∧ request.2 ≤ h.maximum) →
      (∀ request ∈ requestsOf world limit later,
        ∃ found, request.1.requiredCase owner casePublicId = .ok found) →
      ∃ pages left, h.follow owner casePublicId (requestsOf world limit later) none =
        .ok (pages, left)) ↔
    ∀ r ∈ rows, ∃ item, h.item world.state caseId casePublicId r = .ok item

/-- A case that a later store reads under the same public id is the same. -/
theorem requiredCase_later {s s' : Store} (kept : CaseKept caseId s s') {c : CaseRow}
    (hcase : s.requiredCase owner casePublicId = .ok (caseId, c)) (found : Nat × CaseRow)
    (hfound : s'.requiredCase owner casePublicId = .ok found) :
    found.1 = caseId ∧ found.2.publicId = casePublicId := by
  obtain ⟨id, c'⟩ := found
  obtain ⟨hstored, -, hid⟩ := requiredCase_row hcase
  obtain ⟨hstored', -, hid'⟩ := requiredCase_row hfound
  obtain ⟨c'', hc'', hfixed⟩ := kept.cases c hstored
  have same : c''.publicId = c.publicId := congrArg (·.1) hfixed
  exact ⟨kept.ids'.cases id caseId c' c'' hstored' hc''
    (hid'.trans (hid.symm.trans same.symm)), hid'⟩

/-- What every request of a reader finds. -/
theorem kept_of_request (reached : Reaches start world) {limit : Nat}
    {later : List (World (caseSystem sha) × Nat)}
    (between : (world :: later.map (·.1)).IsChain (CaseLater caseId))
    (request : Store × Nat) (hrequest : request ∈ requestsOf world limit later) :
    CaseKept caseId world.state request.1 := by
  rcases List.mem_cons.mp hrequest with rfl | hmem
  · exact caseKept_of_run reached (.refl world)
  · obtain ⟨r, hr, rfl⟩ := List.mem_map.mp hmem
    have : Trans (@CaseLater sha caseId) (CaseLater caseId) (CaseLater caseId) :=
      ⟨fun first second => first.trans second⟩
    exact caseKept_of_run reached (between.rel_cons (List.mem_map_of_mem hr))

/-- An empty journal has one empty page. -/
theorem follow_empty {s : Store} {limit : Nat} {later : List (Store × Nat)} {c : CaseRow}
    (hcase : s.requiredCase owner casePublicId = .ok (caseId, c))
    (hnewest : h.newest? s caseId = none) {pages : List (HistoryPage Id Item)}
    {left : Option (HistoryCursor Id)} :
    h.follow owner casePublicId ((s, limit) :: later) none = .ok (pages, left) ↔
      (1 ≤ limit ∧ limit ≤ h.maximum) ∧ pages = [⟨none, [], 0, none⟩] ∧ left = none := by
  have reduced : ∀ page, h.list s owner casePublicId limit none = .ok page ↔
      (1 ≤ limit ∧ limit ≤ h.maximum) ∧ page = ⟨none, [], 0, none⟩ := by
    intro page
    unfold History.list
    constructor
    · intro hpage
      obtain ⟨_, hlimit, hpage⟩ := bind_eq_ok.mp hpage
      obtain ⟨found, hfound, hpage⟩ := bind_eq_ok.mp hpage
      cases Except.ok.inj (hcase.symm.trans hfound)
      obtain ⟨_, -, hpage⟩ := bind_eq_ok.mp hpage
      dsimp only at hpage
      rw [hnewest] at hpage
      cases hpage
      exact ⟨check_eq_ok.mp hlimit, rfl⟩
    · rintro ⟨hlimit, rfl⟩
      refine bind_eq_ok.mpr ⟨(), check_eq_ok.mpr hlimit, bind_eq_ok.mpr ⟨(caseId, c), hcase, ?_⟩⟩
      refine bind_eq_ok.mpr ⟨(), check_eq_ok.mpr rfl, ?_⟩
      dsimp only
      rw [hnewest]
      rfl
  rw [historyFollow_cons]
  constructor
  · rintro ⟨page, hpage, hnext⟩
    obtain ⟨hlimit, rfl⟩ := (reduced page).mp hpage
    exact ⟨hlimit, hnext⟩
  · rintro ⟨hlimit, hpages⟩
    exact ⟨_, (reduced _).mpr ⟨hlimit, rfl⟩, hpages⟩

theorem exists_of_mem {α β : Type} {R : α → β → Prop} {l : List α} {l' : List β}
    (h : List.Forall₂ R l l') {a : α} (ha : a ∈ l) : ∃ b ∈ l', R a b := by
  induction h with
  | nil => cases ha
  | cons hab _ ih =>
      rcases List.mem_cons.mp ha with rfl | hmem
      · exact ⟨_, List.mem_cons_self, hab⟩
      · obtain ⟨b, hb, hr⟩ := ih hmem
        exact ⟨b, List.mem_cons_of_mem _ hb, hr⟩

/-- What is kept of a journal makes it read once. -/
theorem readOnce (journal : Journalled h itemId caseId world.state rows)
    (reached : Reaches start world) {c : CaseRow}
    (hcase : world.state.requiredCase owner casePublicId = .ok (caseId, c)) :
    ReadOnce h itemId world owner casePublicId caseId rows := by
  have listed : ∀ limit later,
      (world :: later.map (·.1)).IsChain (CaseLater caseId) →
      ∀ pages left, h.follow owner casePublicId (requestsOf world limit later) none =
          .ok (pages, left) →
        HistoryListed h itemId caseId casePublicId rows none (requestsOf world limit later) pages
          left := by
    intro limit later between pages left hfollow
    cases hhead : rows.head? with
    | none =>
        obtain rfl := List.head?_eq_none_iff.mp hhead
        obtain ⟨-, rfl, rfl⟩ := (follow_empty hcase (journal.newest.trans hhead)).mp hfollow
        refine ⟨⟨[], [], rfl, iff_of_true rfl rfl, .nil⟩, fun hleft => absurd rfl hleft,
          fun page hpage => ?_⟩
        rw [List.mem_singleton.mp hpage]
        exact ⟨rfl, rfl⟩
    | some cutoff =>
        refine listed_of_followed journal hhead (fun request hrequest => ?_)
          (fun hnil => absurd hnil (List.cons_ne_nil _ _)) (fun hnone => absurd rfl hnone)
          (fun request hfirst => ?_) hfollow
        · have kept := kept_of_request reached between request hrequest
          exact ⟨kept, requiredCase_later kept hcase⟩
        · cases hfirst
          exact .first (journal.newest.trans hhead)
  refine ⟨journal.descending, listed, fun served => ?_, fun verified => ?_⟩
  · have between : (world :: (List.replicate rows.length (world, 1)).map (·.1)).IsChain
        (CaseLater caseId) := by
      rw [List.map_replicate]
      exact List.isChain_replicate_of_rel (rows.length + 1) (.refl world)
    have requests : ∀ request ∈ requestsOf world 1 (List.replicate rows.length (world, 1)),
        request = (world.state, 1) := by
      intro request hrequest
      rcases List.mem_cons.mp hrequest with rfl | hmem
      · rfl
      · obtain ⟨r, hr, rfl⟩ := List.mem_map.mp hmem
        rw [List.eq_of_mem_replicate hr]
        rfl
    obtain ⟨pages, left, hfollow⟩ := served 1 (List.replicate rows.length (world, 1)) between
      (fun request hrequest => by
        rw [requests request hrequest]
        exact ⟨Nat.le_refl 1, journal.maximum⟩)
      (fun request hrequest => by
        rw [requests request hrequest]
        exact ⟨_, hcase⟩)
    obtain ⟨⟨shown, rest, hall, hnone, hread⟩, hfull, -⟩ := listed 1 _ between pages left hfollow
    have all : KeysetPages.below Prod.fst none rows = rows := List.filter_true rows
    rw [all] at hall
    have done : left = none := by
      by_contra hleft
      have size := hfull hleft
      rw [← hread.length_eq] at size
      have total : ((requestsOf world 1 (List.replicate rows.length (world, 1))).map (·.2)).sum =
          rows.length + 1 := by
        unfold requestsOf
        simp [Nat.add_comm]
      have := congrArg List.length hall
      rw [List.length_append] at this
      omega
    obtain rfl : rows = shown := by rw [hall, hnone.mp done, List.append_nil]
    intro r hr
    obtain ⟨item, -, -, request, hrequest, hitem⟩ := exists_of_mem hread hr
    rw [requests request hrequest] at hitem
    exact ⟨item, hitem⟩
  · intro limit later between limits opened
    cases hhead : rows.head? with
    | none =>
        exact ⟨_, _, (follow_empty hcase (journal.newest.trans hhead)).mpr
          ⟨limits _ List.mem_cons_self, rfl, rfl⟩⟩
    | some cutoff =>
        have first : ∀ request, (requestsOf world limit later).head? = some request →
            ContinuesAfter h request.1 caseId casePublicId rows cutoff none none := by
          intro request hfirst
          cases hfirst
          exact .first (journal.newest.trans hhead)
        refine followed_of_verified journal hhead verified (fun request hrequest => ?_) first
        have kept := kept_of_request reached between request hrequest
        obtain ⟨⟨id, c'⟩, hfound⟩ := opened request hrequest
        obtain ⟨hid, hpublicId⟩ := requiredCase_later kept hcase _ hfound
        obtain rfl : id = caseId := hid
        exact ⟨kept, ⟨c', hfound, hpublicId⟩, limits request hrequest⟩

/-- Following the cursors of a case, from a first page on, with any limits
and whatever is committed between the pages while the case is not deleted:
the pages list what the case had at the first, each row once and the newest
first, nothing newer, and every page has the same total; a page is refused
only where a row cannot be verified. -/
theorem histories_read_once (reached : Reaches start world) {c : CaseRow}
    (hcase : world.state.requiredCase owner casePublicId = .ok (caseId, c)) :
    ((∀ r, r ∈ world.state.checkpointListing caseId ↔
        world.state.checkpoints.get? r.1 = some r.2 ∧ r.2.caseId = caseId) ∧
      ReadOnce (streamCheckpointHistory sha) (·.checkpoint.publicId) world owner casePublicId caseId
        (world.state.checkpointListing caseId)) ∧
    (∀ r, r ∈ world.state.outcomeListing caseId ↔
        world.state.syncs.get? r.1 = some r.2 ∧
          r.2.caseId = caseId ∧ r.2.state.usable = true ∧ r.2.plan.version = 6) ∧
      ReadOnce (backfillOutcomeHistory sha) (·.outcome.document.syncPublicId) world owner
        casePublicId caseId (world.state.outcomeListing caseId) := by
  refine ⟨⟨fun r => ?_, readOnce checkpoints_journalled reached hcase⟩, fun r => ?_,
    readOnce outcomes_journalled reached hcase⟩
  · exact mem_listing.trans (and_congr_right fun _ => decide_eq_true_iff)
  · exact mem_listing.trans (and_congr_right fun _ => outcomeEligible_iff)

end Whole

/-! ## A page that is refused -/

def balancesRequest : SyncRequest :=
  ⟨.bounded, .day, none, none, [.balances, .transfers], by decide,
    sampleSyncRequest.windowValid⟩

/-- A schedule is accepted after another stream of the case was published
behind its checks. -/
def sampleRace : List (Move (caseSystem journalSha)) :=
  journalSession 0
    (.createOrOpenCase ⟨sampleOwner, .mainnet, .live, "0:0a".toList, none, none⟩)
    2000 (sampleUuid '0') 20 ++
  journalSession 1
    (.enqueueSync sampleOwner (sampleUuid '0') sampleSyncRequest "sync".toList)
    2001 (sampleUuid '1') 30 ++
  journalSession 2 .runSyncWorker 2002 (sampleUuid '2') 60 ++
  journalSession 3
    (.enqueueBackfillSchedule sampleOwner (sampleUuid '0')
      (cutoffDigest '7' (some (syncDigest '3' (sampleUuid '1')))) ⟨1, one_le_pageBudget, pageBudget_le_ten⟩
      "page".toList) 2003 (sampleUuid '3') 18 ++
  journalSession 4
    (.enqueueSync sampleOwner (sampleUuid '0') balancesRequest "other".toList)
    2004 (sampleUuid '4') 30 ++
  journalSession 5 .runSyncWorker 2005 (sampleUuid '5') 60 ++
  List.replicate 60 (.run 3 (pagedAnswers sampleProvider 2006 (sampleUuid '3'))) ++
  journalSession 6 .runSyncWorker 2007 (sampleUuid '6') 60

/-- The scheduled sync is published, and every page of the history that
would list it is refused. -/
theorem outcome_history_refused :
    Reaches start (journalWorld sampleRace) ∧
      (∃ c, (journalWorld sampleRace).state.requiredCase sampleOwner (sampleUuid '0') =
        .ok (1, c)) ∧
      ((journalWorld sampleRace).state.outcomeListing 1).map (·.1) = [3] ∧
      ∀ page, (backfillOutcomeHistory journalSha).list (journalWorld sampleRace).state sampleOwner
        (sampleUuid '0') 20 none ≠ .ok page := by
  have hcase : ((journalWorld sampleRace).state.requiredCase sampleOwner
      (sampleUuid '0')).toOption.map (·.1) = some 1 := by decide +kernel
  have refused : ((backfillOutcomeHistory journalSha).list (journalWorld sampleRace).state
      sampleOwner (sampleUuid '0') 20 none).isOk = false := by decide +kernel
  obtain ⟨⟨id, c⟩, hfound, rfl⟩ := Option.map_eq_some_iff.mp hcase
  refine ⟨journalWorld_reached _, ⟨c, eq_ok_of_toOption hfound⟩, by decide +kernel,
    fun page hpage => ?_⟩
  rw [hpage] at refused
  cases refused

/-- The checkpoints of the sample case, one a page, and one published
between the pages. -/
theorem histories_read_once_sample :
    ∃ pages left, (streamCheckpointHistory journalSha).follow sampleOwner (sampleUuid '0')
        (requestsOf (journalWorld sampleScheduled) 1
          [(journalWorld (sampleScheduled ++ sampleNextPage), 1)]) none = .ok (pages, left) ∧
      pages.length = 2 ∧ left = none ∧
      HistoryListed (streamCheckpointHistory journalSha) (·.checkpoint.publicId) 1 (sampleUuid '0')
        ((journalWorld sampleScheduled).state.checkpointListing 1) none
        (requestsOf (journalWorld sampleScheduled) 1
          [(journalWorld (sampleScheduled ++ sampleNextPage), 1)]) pages left := by
  have hpages : (((streamCheckpointHistory journalSha).follow sampleOwner (sampleUuid '0')
      (requestsOf (journalWorld sampleScheduled) 1
        [(journalWorld (sampleScheduled ++ sampleNextPage), 1)]) none).toOption.map
          fun read => (read.1.length, read.2.isNone)) = some (2, true) := by decide +kernel
  obtain ⟨⟨pages, left⟩, hread, hsize⟩ := Option.map_eq_some_iff.mp hpages
  obtain ⟨hlength, hnone⟩ := Prod.mk.inj hsize
  obtain ⟨c, hcase⟩ := journalWorld_case
  have between : (journalWorld sampleScheduled ::
      [(journalWorld (sampleScheduled ++ sampleNextPage), 1)].map (·.1)).IsChain (CaseLater 1) := by
    simp only [List.map_cons, List.map_nil]
    exact .cons_cons journalWorld_later (.singleton _)
  have once := histories_read_once (journalWorld_reached sampleScheduled) hcase
  have hfollow := eq_ok_of_toOption hread
  exact ⟨pages, left, hfollow, hlength, Option.isNone_iff_eq_none.mp hnone,
    once.1.2.listed 1 [(journalWorld (sampleScheduled ++ sampleNextPage), 1)] between pages left
      hfollow⟩

end TonTracker
