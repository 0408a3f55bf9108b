/-
# `Cases.Lifecycle` — availability, jobs and catalog of a case

What every store keeps whatever commits: one case for each identity, and a
deletion that takes exactly the rows of its case.  What it keeps only
while no job is inserted into an archived case (`insertsAvailable`): an
archived case has no active job, and the newest catalog event of a case
says whether it is archived.  The archival asks for the jobs in its own
statement; the inserts rely on a read made before.
-/
import TonTracker.Syncs.Lifecycle
import TonTracker.Evidence.Steps

namespace TonTracker

open Relational (Table)
open Session (World Run Move Reaches)

/-! ## What a commit does to the cases and the catalog -/

/-- The columns of a case that no transaction changes. -/
def CaseRow.fixed (c : CaseRow) : Uuid × Text × CaseScope × Instant :=
  (c.publicId, c.ownerScopeId, c.scope, c.createdAt)

/-- The case a transaction may insert a job into. -/
def Write.insertsInto : Write → Option Nat
  | .insertSync row => some row.caseId
  | .evidence (.enqueue row) => some row.caseId
  | _ => none

/-- Why a transaction records a catalog event of the case `caseId`: it makes
the case available, or adds to a case that it leaves as it is, or archives
a case without jobs. -/
inductive Touches (w : Write) (s : Store) (caseId : Nat) (c c' : CaseRow) : Bool → Prop
  | available (h : c'.archivedAt = none) : Touches w s caseId c c' true
  | insert (row : SyncRow) (hw : w = .insertSync row) (hcase : row.caseId = caseId)
      (h : c'.archivedAt = c.archivedAt) : Touches w s caseId c c' true
  | publish (p : Publication) (hw : w = .publish p)
      (hrunning : ∃ id row, s.syncs.get? id = some row ∧ row.caseId = caseId ∧
        row.state.active = true)
      (h : c'.archivedAt = c.archivedAt) : Touches w s caseId c c' true
  | archive (hw : w.insertsInto = none) (hidle : s.busy caseId = false)
      (h : c'.archivedAt.isSome = true) : Touches w s caseId c c' false

/-- What a commit does to the cases and the catalog of a store. -/
inductive CaseStep (w : Write) (s s' : Store) : Prop
  | same (hcases : s'.cases = s.cases) (hcatalog : s'.catalogEvents = s.catalogEvents)
  | created (row : CaseRow) (hw : w = .createCase row) (hfree : s.caseCollides row = false)
      (hcases : s'.cases = s.cases.insert row)
      (hcatalog : s'.catalogEvents =
        s.catalogEvents.insert ⟨s.cases.nextId, row.createdAt, true⟩)
  | touched (caseId : Nat) (visible : Bool) (now : Instant) (f : CaseRow → CaseRow) (c : CaseRow)
      (hc : s.cases.get? caseId = some c) (hfixed : (f c).fixed = c.fixed)
      (hcases : s'.cases = s.cases.update fun id c => if id = caseId then some (f c) else none)
      (hcatalog : s'.catalogEvents = s.catalogEvents.insert ⟨caseId, now, visible⟩)
      (why : Touches w s caseId c (f c) visible)
  | deleted (target : CaseTarget) (now : Instant) (hw : w = .deleteCase target now)
      (hidle : s.busy target.caseId = false) (hs : s' = s.deleted target now)

namespace Write

/-- An update of the case under a condition. -/
theorem touchIf_caseStep {w : Write} {s : Store} {caseId : Nat} {condition : CaseRow → Bool}
    {visible : Bool} {now : Instant} {f : CaseRow → CaseRow} (hfixed : ∀ c, (f c).fixed = c.fixed)
    (why : ∀ c, s.cases.get? caseId = some c → condition c = true →
      Touches w s caseId c (f c) visible) :
    CaseStep w s (s.touchIf caseId condition visible now f).2 := by
  unfold Store.touchIf
  split
  case isTrue h =>
    obtain ⟨c, hc, hcondition⟩ := (Option.any_eq_true _ _).mp h
    exact .touched caseId visible now f c hc (hfixed c) rfl rfl (why c hc hcondition)
  case isFalse => exact .same rfl rfl

/-- What a deletion does. -/
theorem deleteCase_cases (target : CaseTarget) (now : Instant) (s : Store) :
    ((deleteCase target now).commit s).2 = s ∨
      s.busy target.caseId = false ∧
        ((deleteCase target now).commit s).2 = s.deleted target now := by
  simp only [commit]
  split
  case isTrue h =>
    obtain ⟨c, -, hcondition⟩ := (Option.any_eq_true _ _).mp h
    simp only [Bool.and_eq_true, Bool.not_eq_true'] at hcondition
    exact .inr ⟨hcondition.2, rfl⟩
  case isFalse => exact .inl rfl

theorem commit_caseStep (w : Write) (s : Store) : CaseStep w s (w.commit s).2 := by
  cases w with
  | createCase row =>
      simp only [commit]
      split
      · exact .same rfl rfl
      case isFalse hfree => exact .created row rfl (Bool.not_eq_true _ ▸ hfree) rfl rfl
  | reopenCase caseId now =>
      simp only [commit, Store.touch]
      split
      case isTrue h =>
        obtain ⟨c, hc⟩ := Option.isSome_iff_exists.mp h
        exact .touched caseId true now (fun c => { c with archivedAt := none, updatedAt := now }) c
          hc rfl rfl rfl (.available rfl)
      case isFalse => exact .same rfl rfl
  | updateMetadata target expected change now =>
      refine touchIf_caseStep (fun _ => rfl) fun c _ hcondition => .available ?_
      simp only [Bool.and_eq_true, Option.isNone_iff_eq_none] at hcondition
      exact hcondition.1.2
  | archiveCase target now =>
      refine touchIf_caseStep (fun _ => rfl) fun c _ hcondition => .archive rfl ?_ rfl
      simp only [Bool.and_eq_true, Bool.not_eq_true'] at hcondition
      exact hcondition.2
  | restoreCase target now =>
      exact touchIf_caseStep (fun _ => rfl) fun c _ _ => .available rfl
  | deleteCase target now =>
      rcases deleteCase_cases target now s with hsame | ⟨hidle, hdeleted⟩
      · rw [hsame]
        exact .same rfl rfl
      · exact .deleted target now rfl hidle hdeleted
  | insertSync row =>
      rcases insertSync_cases row s with hsame | ⟨-, hcase, hinserted⟩
      · rw [hsame]
        exact .same rfl rfl
      · rw [hinserted]
        obtain ⟨c, hc⟩ := Option.isSome_iff_exists.mp hcase
        exact .touched row.caseId true row.createdAt
          (fun c => { c with updatedAt := row.createdAt }) c hc rfl rfl rfl
          (.insert row rfl rfl rfl)
  | sync v => exact .same rfl rfl
  | publish p =>
      rcases publish_cases p s with hsame | ⟨⟨id, row, hrow, hselects⟩, -, -, hcase, hpublished⟩
      · rw [hsame]
        exact .same rfl rfl
      · rw [hpublished]
        obtain ⟨c, hc⟩ := Option.isSome_iff_exists.mp hcase
        obtain ⟨-, hcaseId, howned, -, -⟩ := Publication.selects_iff.mp hselects
        exact .touched p.caseId true p.now (fun c => { c with updatedAt := p.now }) c hc rfl rfl
          rfl (.publish p rfl
            ⟨id, row, hrow, hcaseId, (SyncRow.ownedBy_running howned).1 ▸ rfl⟩ rfl)
  | evidence v =>
      simp only [commit]
      split <;> exact .same rfl rfl
  | startBuilder token => exact .same rfl rfl

end Write

/-! ## Jobs of a case -/

namespace Store

/-- The case has no active job. -/
structure Idle (s : Store) (caseId : Nat) : Prop where
  syncs : ∀ id row, s.syncs.get? id = some row → row.caseId = caseId → row.state.active = false
  evidence : ∀ id e, s.evidence.get? id = some e → e.caseId = caseId → e.state.active = false

theorem idle_of_not_busy {s : Store} {caseId : Nat} (h : s.busy caseId = false) :
    s.Idle caseId := by
  unfold busy at h
  rw [Bool.or_eq_false_iff] at h
  obtain ⟨hsyncs, hevidence⟩ := h
  unfold hasActiveSync activeSync? at hsyncs
  unfold hasActiveEvidence activeEvidence? at hevidence
  rw [Option.isSome_eq_false_iff, Option.isNone_iff_eq_none] at hsyncs hevidence
  constructor
  · intro id row hrow hcase
    have free := s.syncs.find?_eq_none.mp hsyncs id row hrow
    simpa only [hcase, decide_true, Bool.true_and] using free
  · intro id e he hcase
    have free := s.evidence.find?_eq_none.mp hevidence id e he
    simpa only [hcase, decide_true, Bool.true_and] using free

end Store

/-- A job is inserted only into a case that is not archived. -/
def Write.insertsAvailable (w : Write) (s : Store) : Bool :=
  match w with
  | .insertSync row => (s.cases.get? row.caseId).all (·.archivedAt.isNone)
  | .evidence (.enqueue row) => (s.cases.get? row.caseId).all (·.archivedAt.isNone)
  | _ => true

/-- A case without jobs gets one only by an insert. -/
theorem idle_after {w : Write} {s : Store} {caseId : Nat} (hw : w.insertsInto ≠ some caseId)
    (h : s.Idle caseId) : (w.commit s).2.Idle caseId := by
  constructor
  · intro id row' hrow' hcase
    by_contra hactive
    rw [Bool.not_eq_false] at hactive
    rcases active_after hrow' hactive with ⟨row, hrow, hsame, hactive'⟩ | ⟨rfl, -, -⟩
    · rw [h.syncs id row hrow (hsame.trans hcase)] at hactive'
      cases hactive'
    · exact hw (congrArg some hcase)
  · intro id e' he' hcase
    by_contra hactive
    rw [Bool.not_eq_false] at hactive
    rcases Write.evidence_after he' with hsame | ⟨row, rfl, -, rfl, -⟩ | ⟨v, e, -, he, happly, -⟩
    · rw [h.evidence id e' hsame hcase] at hactive
      cases hactive
    · exact hw (congrArg some hcase)
    · have hactive' := EvidenceWrite.apply_active happly hactive
      rw [h.evidence id e he ((EvidenceWrite.apply_caseId happly).symm.trans hcase)] at hactive'
      cases hactive'

/-! ## Identity -/

/-- One case for each owner, network, environment and address. -/
def OneCase (s : Store) : Prop :=
  ∀ a b ca cb, s.cases.get? a = some ca → s.cases.get? b = some cb →
    ca.ownerScopeId = cb.ownerScopeId → ca.scope.network = cb.scope.network →
    ca.scope.dataEnvironment = cb.scope.dataEnvironment →
    ca.scope.canonicalWalletKey = cb.scope.canonicalWalletKey → a = b

/-- A case that is stored has another identity than one that may be
created. -/
theorem caseCollides_eq_false {s : Store} {row c : CaseRow} {id : Nat}
    (h : s.caseCollides row = false) (hc : s.cases.get? id = some c) :
    ¬(c.ownerScopeId = row.ownerScopeId ∧ c.scope.network = row.scope.network ∧
      c.scope.dataEnvironment = row.scope.dataEnvironment ∧
      c.scope.canonicalWalletKey = row.scope.canonicalWalletKey) := by
  unfold Store.caseCollides at h
  rw [Option.isSome_eq_false_iff, Option.isNone_iff_eq_none] at h
  have free := s.cases.find?_eq_none.mp h id c hc
  rintro ⟨howner, hnetwork, henvironment, hkey⟩
  simp only [howner, hnetwork, henvironment, hkey, decide_true, Bool.and_self,
    Bool.or_true] at free
  cases free

/-- A case after a commit that touched one. -/
theorem fixed_of_touched {s s' : Store} {caseId : Nat} {f : CaseRow → CaseRow} {c : CaseRow}
    (hc : s.cases.get? caseId = some c) (hfixed : (f c).fixed = c.fixed)
    (hcases : s'.cases = s.cases.update fun id c => if id = caseId then some (f c) else none)
    {id : Nat} {c' : CaseRow} (h : s'.cases.get? id = some c') :
    ∃ c₀, s.cases.get? id = some c₀ ∧ c'.fixed = c₀.fixed ∧
      c' = if id = caseId then f c₀ else c₀ := by
  rw [hcases, Table.get?_update] at h
  obtain ⟨c₀, hc₀, heq⟩ := Option.map_eq_some_iff.mp h
  by_cases hid : id = caseId
  · subst hid
    rw [hc] at hc₀
    cases hc₀
    rw [if_pos rfl] at heq
    cases heq
    exact ⟨c, hc, hfixed, (if_pos rfl).symm⟩
  · rw [if_neg hid] at heq
    cases heq
    exact ⟨c₀, hc₀, rfl, (if_neg hid).symm⟩

theorem OneCase.commit {w : Write} {s : Store} (h : OneCase s) : OneCase (w.commit s).2 := by
  intro a b ca cb ha hb howner hnetwork henvironment hkey
  cases w.commit_caseStep s with
  | same hcases hcatalog =>
      rw [hcases] at ha hb
      exact h a b ca cb ha hb howner hnetwork henvironment hkey
  | created row hw hfree hcases hcatalog =>
      rw [hcases, Table.get?_insert] at ha hb
      split at ha <;> split at hb
      next ida idb => exact ida.trans idb.symm
      next ida idb =>
          cases ha
          exact absurd ⟨howner.symm, hnetwork.symm, henvironment.symm, hkey.symm⟩
            (caseCollides_eq_false hfree hb)
      next ida idb =>
          cases hb
          exact absurd ⟨howner, hnetwork, henvironment, hkey⟩ (caseCollides_eq_false hfree ha)
      next ida idb => exact h a b ca cb ha hb howner hnetwork henvironment hkey
  | touched caseId visible now f c hc hfixed hcases hcatalog why =>
      obtain ⟨ca₀, ha₀, fa, -⟩ := fixed_of_touched hc hfixed hcases ha
      obtain ⟨cb₀, hb₀, fb, -⟩ := fixed_of_touched hc hfixed hcases hb
      simp only [CaseRow.fixed, Prod.mk.injEq] at fa fb
      obtain ⟨-, ownerA, scopeA, -⟩ := fa
      obtain ⟨-, ownerB, scopeB, -⟩ := fb
      rw [ownerA, ownerB] at howner
      rw [scopeA, scopeB] at hnetwork henvironment hkey
      exact h a b ca₀ cb₀ ha₀ hb₀ howner hnetwork henvironment hkey
  | deleted target now hw hidle hs =>
      rw [hs] at ha hb
      simp only [Store.deleted] at ha hb
      rw [Table.get?_delete, Option.filter_eq_some_iff] at ha hb
      exact h a b ca cb ha.1 hb.1 howner hnetwork henvironment hkey

/-! ## Availability -/

/-- The newest catalog event of a case. -/
def Store.newestEvent? (s : Store) (caseId : Nat) : Option (Nat × CatalogEventRow) :=
  s.catalogEvents.latest? fun _ event => event.caseId = caseId

/-- What holds of the cases while no job is inserted into an archived
one. -/
structure CasesSound (s : Store) : Prop where
  idle : ∀ id c, s.cases.get? id = some c → c.archivedAt.isSome = true → s.Idle id
  visible : ∀ id c, s.cases.get? id = some c →
    (s.newestEvent? id).map (·.2.visible) = some c.archivedAt.isNone

theorem newestEvent_insert {s s' : Store} {caseId : Nat} {now : Instant} {visible : Bool}
    (hcatalog : s'.catalogEvents = s.catalogEvents.insert ⟨caseId, now, visible⟩) (id : Nat) :
    (s'.newestEvent? id).map (·.2.visible) =
      if id = caseId then some visible else (s.newestEvent? id).map (·.2.visible) := by
  unfold Store.newestEvent?
  rw [hcatalog, Table.latest?_insert]
  by_cases hid : id = caseId
  · rw [if_pos hid, if_pos (decide_eq_true hid.symm)]
    rfl
  · rw [if_neg hid, if_neg fun h => hid (of_decide_eq_true h).symm]

theorem CasesSound.commit {w : Write} {s : Store} (havailable : w.insertsAvailable s = true)
    (hw : w.WellFormed) (h : CasesSound s) : CasesSound (w.commit s).2 := by
  -- a job is inserted into no archived case
  have into : ∀ id c, s.cases.get? id = some c → c.archivedAt.isSome = true →
      w.insertsInto ≠ some id := by
    intro id c hc harchived hinto
    have open' : (s.cases.get? id).all (·.archivedAt.isNone) = true := by
      cases w with
      | insertSync row => cases hinto; exact havailable
      | evidence v =>
          cases v with
          | enqueue row => cases hinto; exact havailable
          | _ => cases hinto
      | _ => cases hinto
    rw [hc, Option.all_some, Option.isNone_iff_eq_none] at open'
    rw [open'] at harchived
    cases harchived
  cases w.commit_caseStep s with
  | same hcases hcatalog =>
      constructor
      · intro id c hc harchived
        rw [hcases] at hc
        exact idle_after (into id c hc harchived) (h.idle id c hc harchived)
      · intro id c hc
        rw [hcases] at hc
        unfold Store.newestEvent?
        rw [hcatalog]
        exact h.visible id c hc
  | created row hcreate hfree hcases hcatalog =>
      subst hcreate
      obtain ⟨request, canonical, publicId, now, rfl⟩ := hw
      constructor
      · intro id c hc harchived
        rw [hcases, Table.get?_insert] at hc
        split at hc
        · cases hc
          cases harchived
        · exact idle_after (into id c hc harchived) (h.idle id c hc harchived)
      · intro id c hc
        rw [newestEvent_insert hcatalog]
        rw [hcases, Table.get?_insert] at hc
        split at hc
        case isTrue hid =>
          cases hc
          rw [if_pos hid]
          rfl
        case isFalse hid =>
          rw [if_neg hid]
          exact h.visible id c hc
  | touched caseId visible now f c hc hfixed hcases hcatalog why =>
      -- a case that is left as it is was available
      have availability : visible = (f c).archivedAt.isNone ∧
          ((f c).archivedAt.isSome = true → s.Idle caseId ∧ w.insertsInto ≠ some caseId) := by
        cases why with
        | available hnone =>
            rw [hnone]
            exact ⟨rfl, fun h => nomatch h⟩
        | insert row hinsert hcase hkept =>
            subst hinsert hcase
            have available : c.archivedAt = none := by
              simp only [Write.insertsAvailable, hc, Option.all_some,
                Option.isNone_iff_eq_none] at havailable
              exact havailable
            rw [hkept, available]
            exact ⟨rfl, fun h => nomatch h⟩
        | publish p hpublish hrunning hkept =>
            obtain ⟨id, row, hrow, hcase, hactive⟩ := hrunning
            have available : c.archivedAt = none := by
              by_contra hsome
              have idle := h.idle caseId c hc (Option.isSome_iff_ne_none.mpr hsome)
              rw [idle.syncs id row hrow hcase] at hactive
              cases hactive
            rw [hkept, available]
            exact ⟨rfl, fun h => nomatch h⟩
        | archive hnone hidle hsome =>
            exact ⟨(Option.isNone_eq_false_iff.mpr hsome).symm, fun _ =>
              ⟨Store.idle_of_not_busy hidle, hnone ▸ fun h => nomatch h⟩⟩
      constructor
      · intro id c' hc' harchived
        obtain ⟨c₀, hc₀, -, rfl⟩ := fixed_of_touched hc hfixed hcases hc'
        split at harchived
        case isTrue hid =>
          subst hid
          rw [hc] at hc₀
          cases hc₀
          obtain ⟨hidle, hinto⟩ := availability.2 harchived
          exact idle_after hinto hidle
        case isFalse =>
          exact idle_after (into id c₀ hc₀ harchived) (h.idle id c₀ hc₀ harchived)
      · intro id c' hc'
        obtain ⟨c₀, hc₀, -, rfl⟩ := fixed_of_touched hc hfixed hcases hc'
        rw [newestEvent_insert hcatalog]
        split
        case isTrue hid =>
          subst hid
          rw [hc] at hc₀
          cases hc₀
          exact congrArg some availability.1
        case isFalse => exact h.visible id c₀ hc₀
  | deleted target now hdelete hidle hs =>
      have kept : ∀ id c, (w.commit s).2.cases.get? id = some c →
          s.cases.get? id = some c ∧ id ≠ target.caseId := by
        intro id c hc
        rw [hs] at hc
        simp only [Store.deleted] at hc
        rw [Table.get?_delete, Option.filter_eq_some_iff, Bool.not_eq_true'] at hc
        exact ⟨hc.1, of_decide_eq_false hc.2⟩
      constructor
      · intro id c hc harchived
        obtain ⟨hc, -⟩ := kept id c hc
        exact idle_after (into id c hc harchived) (h.idle id c hc harchived)
      · intro id c hc
        obtain ⟨hc, hid⟩ := kept id c hc
        rw [hs]
        have newest : (s.deleted target now).newestEvent? id = s.newestEvent? id := by
          refine @Table.latest?_delete _ s.catalogEvents (fun _ event => event.caseId = id)
            (fun _ event => event.caseId = target.caseId) fun _ event _ hcase =>
              decide_eq_false ?_
          rw [of_decide_eq_true hcase]
          exact hid
        rw [newest]
        exact h.visible id c hc

/-! ## Deletion -/

/-- Whether the run is that of a sync of the case. -/
def Store.RunOf (s : Store) (caseId runId : Nat) : Prop :=
  ∃ id row, s.syncs.get? id = some row ∧ row.caseId = caseId ∧ row.ingestionRunId = some runId

/-- Every run a sync names is stored, and no two syncs name one. -/
structure RunsOwned (s : Store) : Prop where
  stored : ∀ id row r, s.syncs.get? id = some row → row.ingestionRunId = some r →
    (s.runs.get? r).isSome = true
  owner : ∀ a b ra rb r, s.syncs.get? a = some ra → s.syncs.get? b = some rb →
    ra.ingestionRunId = some r → rb.ingestionRunId = some r → a = b

theorem runOfCase_iff {s : Store} {caseId runId : Nat} :
    s.runOfCase caseId runId = true ↔ s.RunOf caseId runId := by
  unfold Store.runOfCase Store.RunOf
  constructor
  · intro h
    obtain ⟨⟨id, row⟩, hrow⟩ := Option.isSome_iff_exists.mp h
    obtain ⟨hget, hp⟩ := s.syncs.find?_eq_some hrow
    rw [Bool.and_eq_true, decide_eq_true_eq, decide_eq_true_eq] at hp
    exact ⟨id, row, hget, hp.1, hp.2⟩
  · rintro ⟨id, row, hget, hcase, hrun⟩
    by_contra hnone
    rw [Bool.not_eq_true, Option.isSome_eq_false_iff, Option.isNone_iff_eq_none] at hnone
    have absent := s.syncs.find?_eq_none.mp hnone id row hget
    rw [hcase, hrun, decide_eq_true rfl, decide_eq_true rfl] at absent
    cases absent

/-- The rows whose run a commit leaves, or sets to the next one. -/
theorem run_after {w : Write} {s : Store} (hw : w.WellFormed) {id : Nat} {row' : SyncRow} {r : Nat}
    (h : (w.commit s).2.syncs.get? id = some row') (hr : row'.ingestionRunId = some r) :
    (∃ row, s.syncs.get? id = some row ∧ row.ingestionRunId = some r ∧
        row.caseId = row'.caseId) ∨
      ∃ p, w = .publish p ∧ id = p.lease.jobId ∧ r = s.runs.nextId := by
  rcases Write.syncs_after h with hsame | ⟨rfl, -, -, -⟩ | ⟨v, row, -, hrow, happly⟩ |
    ⟨p, row, rfl, -, hselects, rfl⟩
  · exact .inl ⟨row', hsame, hr, rfl⟩
  · obtain ⟨plan, caseId, c, publicId, settings, key, fingerprint, message, now, rfl⟩ := hw
    cases hr
  · exact .inl ⟨row, hrow, (SyncWrite.apply_run happly).symm.trans hr,
      (congrArg (·.caseId) (SyncWrite.apply_active happly).2).symm⟩
  · exact .inr ⟨p, rfl, (Publication.selects_iff.mp hselects).1, (Option.some.inj hr).symm⟩

/-- What a table keeps where the rows of a case are deleted. -/
theorem get?_deleteOf {α : Type} {t : Table α} {p : Nat → α → Bool} {id : Nat} {value : α} :
    (t.delete p).get? id = some value ↔ t.get? id = some value ∧ ¬ p id value = true := by
  rw [Table.get?_delete, Option.filter_eq_some_iff, Bool.not_eq_true', Bool.not_eq_true]

theorem deleted_runs {s : Store} {target : CaseTarget} {now : Instant} {r : Nat}
    {run : IngestionRun} : (s.deleted target now).runs.get? r = some run ↔
      s.runs.get? r = some run ∧ ¬ s.RunOf target.caseId r := by
  exact get?_deleteOf.trans (and_congr_right fun _ => not_congr runOfCase_iff)

/-- Only the deletion of its case drops a run, and nothing changes one. -/
theorem runs_keeps {w : Write} {s : Store} {r : Nat} {run : IngestionRun}
    (hd : ∀ target now, w = .deleteCase target now → ¬ s.RunOf target.caseId r)
    (h : s.runs.get? r = some run) : (w.commit s).2.runs.get? r = some run := by
  cases w with
  | publish p =>
      rcases Write.publish_cases p s with hsame | ⟨-, -, -, -, hpublished⟩
      · rw [hsame]
        exact h
      · rw [hpublished]
        change (s.runs.insert p.run).get? r = some run
        rw [Table.get?_insert, if_neg (Nat.ne_of_lt (s.runs.lt_nextId h))]
        exact h
  | deleteCase target now =>
      rcases Write.deleteCase_cases target now s with hsame | ⟨-, hdeleted⟩
      · rw [hsame]
        exact h
      · rw [hdeleted, deleted_runs]
        exact ⟨h, hd target now rfl⟩
  | insertSync row =>
      rcases Write.insertSync_cases row s with hsame | ⟨-, -, hinserted⟩
      · rw [hsame]
        exact h
      · rw [hinserted]
        exact h
  | createCase row => simp only [Write.commit]; split <;> exact h
  | reopenCase caseId now => simp only [Write.commit, Store.touch]; split <;> exact h
  | updateMetadata target expected change now =>
      simp only [Write.commit, Store.touchIf]; split <;> exact h
  | archiveCase target now => simp only [Write.commit, Store.touchIf]; split <;> exact h
  | restoreCase target now => simp only [Write.commit, Store.touchIf]; split <;> exact h
  | sync v => exact h
  | evidence v => simp only [Write.commit]; split <;> exact h
  | startBuilder token => exact h

/-- The run a publication adds is named by no sync before it. -/
theorem RunsOwned.fresh {s : Store} (h : RunsOwned s) {id : Nat} {row : SyncRow}
    (hrow : s.syncs.get? id = some row) : row.ingestionRunId ≠ some s.runs.nextId := by
  intro hrun
  have stored := h.stored id row _ hrow hrun
  rw [Table.get?_nextId] at stored
  cases stored

/-- A deletion that drops the run of a sync drops the sync. -/
theorem RunsOwned.notDropped {s : Store} (h : RunsOwned s) {id : Nat} {row row' : SyncRow}
    {r : Nat} {target : CaseTarget} {now : Instant} (hrow : s.syncs.get? id = some row)
    (hr : row.ingestionRunId = some r) (h' : (s.deleted target now).syncs.get? id = some row') :
    ¬ s.RunOf target.caseId r := by
  rintro ⟨other, row₀, hrow₀, hcase₀, hrun₀⟩
  have same := h.owner _ _ _ _ r hrow₀ hrow hrun₀ hr
  subst same
  simp only [Store.deleted] at h'
  obtain ⟨hget, hkept⟩ := get?_deleteOf.mp h'
  rw [hrow₀] at hget
  cases hget
  exact hkept (decide_eq_true hcase₀)

theorem RunsOwned.commit {w : Write} {s : Store} (hw : w.WellFormed) (h : RunsOwned s) :
    RunsOwned (w.commit s).2 := by
  constructor
  · intro id row' r hrow' hr
    rcases run_after hw hrow' hr with ⟨row, hrow, hrun, -⟩ | ⟨p, rfl, -, rfl⟩
    · obtain ⟨run, hget⟩ := Option.isSome_iff_exists.mp (h.stored id row r hrow hrun)
      refine Option.isSome_iff_exists.mpr ⟨run, ?_⟩
      by_cases hsame : (w.commit s).2 = s
      · rw [hsame]
        exact hget
      · refine runs_keeps (fun target now hdelete => ?_) hget
        subst hdelete
        rcases Write.deleteCase_cases target now s with hkept | ⟨-, hdeleted⟩
        · exact absurd hkept hsame
        · exact h.notDropped hrow hrun (hdeleted ▸ hrow')
    · rcases Write.publish_cases p s with hsame | ⟨-, -, -, -, hpublished⟩
      · rw [hsame] at hrow'
        exact absurd hr (h.fresh hrow')
      · rw [hpublished]
        change ((s.runs.insert p.run).get? s.runs.nextId).isSome = true
        rw [Table.get?_insert, if_pos rfl]
        rfl
  · intro a b ra rb r ha hb hra hrb
    rcases run_after hw ha hra with ⟨ra₀, ha₀, hra₀, -⟩ | ⟨p, rfl, ida, rfl⟩
    · rcases run_after hw hb hrb with ⟨rb₀, hb₀, hrb₀, -⟩ | ⟨p, rfl, -, rfl⟩
      · exact h.owner a b ra₀ rb₀ r ha₀ hb₀ hra₀ hrb₀
      · exact absurd hra₀ (h.fresh ha₀)
    · rcases run_after hw hb hrb with ⟨rb₀, hb₀, hrb₀, -⟩ | ⟨p', heq, idb, -⟩
      · exact absurd hrb₀ (h.fresh hb₀)
      · cases heq
        exact ida.trans idb.symm

theorem runsOwned_start : RunsOwned Store.empty :=
  ⟨fun _ _ _ h => (nomatch h), fun _ _ _ _ _ h => nomatch h⟩

/-- Of every reachable store. -/
theorem runsOwned_of_reaches {sha : Sha256} {world : World (caseSystem sha)}
    (reached : Reaches start world) : RunsOwned world.state :=
  (wellFormed_run reached).inv RunsOwned (fun _ _ _ hw h => h.commit hw.2) runsOwned_start

/-- What the deletion of a case leaves: every row that is not of the case,
and one more audit event. -/
structure Deletes (target : CaseTarget) (now : Instant) (s s' : Store) : Prop where
  cases : ∀ id c, s'.cases.get? id = some c ↔ s.cases.get? id = some c ∧ id ≠ target.caseId
  syncs : ∀ id row, s'.syncs.get? id = some row ↔
    s.syncs.get? id = some row ∧ row.caseId ≠ target.caseId
  runs : ∀ id run, s'.runs.get? id = some run ↔
    s.runs.get? id = some run ∧ ¬ s.RunOf target.caseId id
  /-- No run of another case is among them. -/
  otherRuns : ∀ other r, other ≠ target.caseId → s.RunOf other r → ¬ s.RunOf target.caseId r
  manifests : ∀ id m, s'.manifests.get? id = some m ↔ s.manifests.get? id = some m ∧
    ¬ ∃ row, s.syncs.get? m.caseSyncId = some row ∧ row.caseId = target.caseId
  checkpoints : ∀ id c, s'.checkpoints.get? id = some c ↔
    s.checkpoints.get? id = some c ∧ c.caseId ≠ target.caseId
  catalog : ∀ id event, s'.catalogEvents.get? id = some event ↔
    s.catalogEvents.get? id = some event ∧ event.caseId ≠ target.caseId
  evidence : ∀ id e, s'.evidence.get? id = some e ↔
    s.evidence.get? id = some e ∧ e.caseId ≠ target.caseId
  audit : s'.lifecycleEvents = s.lifecycleEvents.insert
    ⟨target.ownerScopeId, target.publicId, now, s.removedCounts target.caseId⟩

theorem deleted_deletes {s : Store} (h : RunsOwned s) (target : CaseTarget) (now : Instant) :
    Deletes target now s (s.deleted target now) where
  cases id c := get?_deleteOf.trans (and_congr_right fun _ => not_congr decide_eq_true_iff)
  syncs id row := get?_deleteOf.trans (and_congr_right fun _ => not_congr decide_eq_true_iff)
  runs id run := deleted_runs
  otherRuns other r hother := by
    rintro ⟨a, ra, ha, rfl, hra⟩ ⟨b, rb, hb, hcase, hrb⟩
    have same := h.owner a b ra rb r ha hb hra hrb
    subst same
    rw [ha] at hb
    cases hb
    exact hother hcase
  manifests id m := by
    refine get?_deleteOf.trans (and_congr_right fun _ => not_congr ?_)
    unfold Store.ofCase
    rw [Option.any_eq_true]
    exact exists_congr fun row => and_congr_right fun _ => decide_eq_true_iff
  checkpoints id c := get?_deleteOf.trans (and_congr_right fun _ => not_congr decide_eq_true_iff)
  catalog id event := get?_deleteOf.trans (and_congr_right fun _ => not_congr decide_eq_true_iff)
  evidence id e := get?_deleteOf.trans (and_congr_right fun _ => not_congr decide_eq_true_iff)
  audit := rfl

/-! ## Whole runs -/

/-- In every store that sessions reach while they insert jobs into available
cases only: one case of an identity, no job in an archived case, the newest
catalog event visible exactly of the available cases, and a deletion that
commits only without jobs and takes the rows of its case. -/
theorem case_lifecycle {sha : Sha256} {world : World (caseSystem sha)}
    (run : Run (fun _ (w : Write) s => w.insertsAvailable s = true) start world) :
    OneCase world.state ∧
      (∀ id c, world.state.cases.get? id = some c → c.archivedAt.isSome = true →
        world.state.Idle id) ∧
      (∀ id c, world.state.cases.get? id = some c →
        (world.state.newestEvent? id).map (·.2.visible) = some c.archivedAt.isNone) ∧
      ∀ target now, ((Write.deleteCase target now).commit world.state).2 = world.state ∨
        world.state.Idle target.caseId ∧
          Deletes target now world.state
            ((Write.deleteCase target now).commit world.state).2 := by
  have inserts := wellFormed_run run
  have one : OneCase world.state :=
    inserts.inv OneCase (fun _ _ _ _ h => h.commit) fun _ _ _ _ h => nomatch h
  have sound : CasesSound world.state :=
    inserts.inv CasesSound (fun _ _ _ hw h => h.commit hw.1 hw.2)
      ⟨fun _ _ h => (nomatch h), fun _ _ h => nomatch h⟩
  have owned := runsOwned_of_reaches (run.mono fun _ _ _ _ => trivial)
  refine ⟨one, sound.idle, sound.visible, fun target now => ?_⟩
  rcases Write.deleteCase_cases target now world.state with hsame | ⟨hidle, hdeleted⟩
  · exact .inl hsame
  · exact .inr ⟨Store.idle_of_not_busy hidle, hdeleted ▸ deleted_deletes owned target now⟩

/-- The archival commits between the availability read of a request and its
insert: the archived case has a queued sync and is listed again. -/
theorem archived_case_queued :
    ∃ c, Reaches start (sampleWorld (sampleArchived ++ sampleSteps 1 2003 1)) ∧
      (sampleWorld (sampleArchived ++ sampleSteps 1 2003 1)).state.cases.get? 1 = some c ∧
      c.archivedAt.isSome = true ∧
      ¬ (sampleWorld (sampleArchived ++ sampleSteps 1 2003 1)).state.Idle 1 ∧
      ((sampleWorld (sampleArchived ++ sampleSteps 1 2003 1)).state.newestEvent? 1).map
        (·.2.visible) ≠ some c.archivedAt.isNone := by
  have archived : ((sampleWorld (sampleArchived ++ sampleSteps 1 2003 1)).state.cases.get?
      1).map (·.archivedAt.isNone) = some false := by decide +kernel
  have queued : ((sampleWorld (sampleArchived ++ sampleSteps 1 2003 1)).state.syncs.get?
      1).map (fun row => (row.caseId, row.state)) = some (1, .queued) := by decide +kernel
  have listed : ((sampleWorld (sampleArchived ++ sampleSteps 1 2003 1)).state.newestEvent?
      1).map (·.2.visible) = some true := by decide +kernel
  obtain ⟨c, hc, harchived⟩ := Option.map_eq_some_iff.mp archived
  obtain ⟨row, hrow, hqueued⟩ := Option.map_eq_some_iff.mp queued
  obtain ⟨hcase, hstate⟩ := Prod.mk.inj hqueued
  refine ⟨c, sampleWorld_reached _, hc, ?_, fun idle => ?_, ?_⟩
  · exact Option.isNone_eq_false_iff.mp harchived
  · have ended := idle.syncs 1 row hrow hcase
    rw [hstate] at ended
    cases ended
  · rw [listed, harchived]
    exact fun h => nomatch h

/-- Without the archival both jobs of the case are inserted while it is
available. -/
theorem case_lifecycle_sample :
    Run (fun _ (w : Write) s => w.insertsAvailable s = true) start (sampleWorld sampleMoves) ∧
      ((sampleWorld sampleMoves).state.cases.get? 1).isSome = true ∧
      OneCase (sampleWorld sampleMoves).state ∧
      ((sampleWorld sampleMoves).state.newestEvent? 1).map (·.2.visible) = some true := by
  have run : Run (fun _ (w : Write) s => w.insertsAvailable s = true) start
      (sampleWorld sampleMoves) := by
    refine Session.run_foldl (fun _ (w : Write) s => w.insertsAvailable s) (fun _ _ _ h => ?_)
      sampleMoves start (by decide +kernel)
    exact h
  have available : ((sampleWorld sampleMoves).state.cases.get? 1).map (·.archivedAt.isNone) =
      some true := by decide +kernel
  obtain ⟨c, hc, hopen⟩ := Option.map_eq_some_iff.mp available
  obtain ⟨one, -, visible, -⟩ := case_lifecycle run
  refine ⟨run, hc ▸ rfl, one, ?_⟩
  rw [visible 1 c hc, hopen]

end TonTracker
