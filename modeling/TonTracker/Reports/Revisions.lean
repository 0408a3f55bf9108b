/-
# `Reports.Revisions` — the revisions of a case, over every run

The unique indices leave one revision to a content (`UniqueRevisions`).  In
a run that does not delete the case, what a capture has looked up stays
true until it inserts (`Held`), so every revision of the case matches its
report, its snapshot and its case (`Coherent`) and is kept as it is
(`RevisionsKept`).  Reading and comparing follow from the two.
-/
import TonTracker.Activity.PinnedSnapshots
import TonTracker.Reports.Comparison

namespace TonTracker

open Relational (Table)
open ExceptFold (present bind_eq_ok check_eq_ok present_eq_ok)
open Session (World Run Move Reaches Protocol Prog)

variable {lib : ReportLibrary}

/-! ## One revision to a content -/

/-- No two revisions have a public id, or a case and a content, in
common. -/
def UniqueRevisions (s : ReportStore lib) : Prop :=
  ∀ a b ra rb, s.revisions.get? a = some ra → s.revisions.get? b = some rb →
    (ra.publicId = rb.publicId ∨ ra.caseId = rb.caseId ∧ ra.contentHash = rb.contentHash) → a = b

/-- What is not refused shares nothing with a stored revision. -/
theorem free_of_not_refused {s : ReportStore lib} {row other : RevisionRow lib} {id : Nat}
    (h : s.refuses row = false) (hother : s.revisions.get? id = some other) :
    ¬ (other.publicId = row.publicId ∨
      other.caseId = row.caseId ∧ other.contentHash = row.contentHash) := by
  unfold ReportStore.refuses at h
  simp only [Bool.or_eq_false_iff, Option.isSome_eq_false_iff, Option.isNone_iff_eq_none] at h
  have free := s.revisions.find?_eq_none.mp h.1.1.1 id other hother
  simpa using free

/-- A revision after a transaction of the case store was there before. -/
theorem get?_cascade {s : Store} {t : Table (RevisionRow lib)} {id : Nat} {row : RevisionRow lib} :
    (cascadeRevisions s t).get? id = some row ↔ t.get? id = some row ∧
      (s.cases.get? row.caseId).isSome = true ∧
        (s.syncs.get? row.snapshotSyncId).isSome = true := by
  unfold cascadeRevisions
  rw [Table.get?_delete, Option.filter_eq_some_iff]
  refine and_congr_right fun _ => ?_
  cases s.cases.get? row.caseId <;> cases s.syncs.get? row.snapshotSyncId <;> simp

/-- A revision after an insert. -/
theorem commit_insertRevision (s : ReportStore lib) (row : RevisionRow lib) :
    ((ReportWrite.insertRevision row).commit s = (none, s)) ∨
      s.refuses row = false ∧ (ReportWrite.insertRevision row).commit s =
        (some s.revisions.nextId, ⟨s.base, s.revisions.insert row⟩) := by
  by_cases h : s.refuses row = true
  · exact .inl (if_pos h)
  · exact .inr ⟨Bool.eq_false_iff.mpr h, if_neg h⟩

theorem UniqueRevisions.commit {s : ReportStore lib} (w : ReportWrite lib)
    (h : UniqueRevisions s) : UniqueRevisions (w.commit s).2 := by
  cases w with
  | base w =>
      intro a b ra rb ha hb hsame
      exact h a b ra rb (get?_cascade.mp ha).1 (get?_cascade.mp hb).1 hsame
  | insertRevision row =>
      obtain heq | ⟨hfree, heq⟩ := commit_insertRevision s row
      · rw [heq]
        exact h
      · rw [heq]
        intro a b ra rb ha hb hsame
        rw [Table.get?_insert] at ha hb
        split at ha <;> split at hb
        · next hida hidb => exact hida.trans hidb.symm
        · next hida hidb =>
            cases ha
            exact (free_of_not_refused hfree hb
              (hsame.imp Eq.symm fun h => ⟨h.1.symm, h.2.symm⟩)).elim
        · next hida hidb =>
            cases hb
            exact (free_of_not_refused hfree ha hsame).elim
        · exact h a b ra rb ha hb hsame

/-- The revision that a public id names. -/
theorem revision?_eq {s : ReportStore lib} (unique : UniqueRevisions s) {id : Nat}
    {row : RevisionRow lib} (h : s.revisions.get? id = some row) :
    s.revision? row.caseId row.publicId = some (id, row) := by
  refine (s.revisions.find?_eq_some_iff fun a b ra rb ha hb hpa hpb => ?_).mpr ⟨h, ?_⟩
  · simp only [Bool.and_eq_true, decide_eq_true_eq] at hpa hpb
    exact unique a b ra rb ha hb (.inl (hpa.2.trans hpb.2.symm))
  · simp only [decide_true, Bool.and_self]

/-! ## Revisions that match -/

/-- The row matches its report, its snapshot and its case. -/
def Coherent (s : Store) (row : RevisionRow lib) : Prop :=
  ∃ c snapshot report, s.cases.get? row.caseId = some c ∧
    s.syncs.get? row.snapshotSyncId = some snapshot ∧ loadReport row.reportJson = some report ∧
    provenanceMatches row.caseId c snapshot row report = true ∧ report.subject = c.subject

variable (lib) in
/-- The case is not deleted. -/
def KeepsReportCase (caseId : Nat) (_ : Nat) (w : ReportWrite lib) (_ : ReportStore lib) : Prop :=
  ∀ target now, w = .base (.deleteCase target now) → caseId ≠ target.caseId

/-- A sync of a case that is not deleted keeps what it was created with. -/
theorem sync_kept {w : Write} {s : Store} {id : Nat} {row : SyncRow}
    (hd : ∀ target now, w = .deleteCase target now → row.caseId ≠ target.caseId)
    (h : s.syncs.get? id = some row) : ∃ row', (w.commit s).2.syncs.get? id = some row' ∧
      row'.caseId = row.caseId ∧ row'.publicId = row.publicId := by
  obtain ⟨row', hrow'⟩ := Write.syncs_keeps hd h
  have fixed := (Write.syncs_step h hrow').1
  exact ⟨row', hrow', congrArg (·.caseId) fixed, congrArg (·.publicId) fixed⟩

/-- A case that is not deleted keeps its public id and its subject. -/
theorem case_kept {w : Write} {s : Store} {id : Nat} {c : CaseRow}
    (hd : ∀ target now, w = .deleteCase target now → id ≠ target.caseId)
    (h : s.cases.get? id = some c) : ∃ c', (w.commit s).2.cases.get? id = some c' ∧
      c'.publicId = c.publicId ∧ c'.subject = c.subject := by
  obtain ⟨c', hc', fixed⟩ := cases_keeps hd h
  simp only [CaseRow.fixed, Prod.mk.injEq] at fixed
  refine ⟨c', hc', fixed.1, ?_⟩
  unfold CaseRow.subject
  rw [fixed.2.2.1]

theorem Coherent.base {w : Write} {s : Store} {row : RevisionRow lib}
    (hd : ∀ target now, w = .deleteCase target now → row.caseId ≠ target.caseId)
    (h : Coherent s row) : Coherent (w.commit s).2 row := by
  obtain ⟨c, snapshot, report, hc, hsnapshot, hload, hmatches, hsubject⟩ := h
  have hcase : snapshot.caseId = row.caseId := by
    unfold provenanceMatches at hmatches
    simp only [Bool.and_eq_true, decide_eq_true_eq] at hmatches
    exact hmatches.1.1.1.1.1.1.1.1
  obtain ⟨c', hc', hpublic, hsame⟩ := case_kept hd hc
  obtain ⟨snapshot', hsnapshot', hcase', hpublic'⟩ :=
    sync_kept (fun target now hw => hcase ▸ hd target now hw) hsnapshot
  refine ⟨c', snapshot', report, hc', hsnapshot', hload, ?_, hsubject.trans hsame.symm⟩
  unfold provenanceMatches at hmatches ⊢
  rw [hcase', hpublic, hpublic']
  exact hmatches

/-- What a capture has looked up, where its case is `caseId`. -/
def Held (caseId : Nat) (target : CaptureTarget) (s : ReportStore lib) : Prop :=
  target.report.valid = true ∧ (target.caseId = caseId → ∃ c snapshot,
    s.base.cases.get? caseId = some c ∧ c.publicId = target.report.casePublicId ∧
      c.subject = target.report.subject ∧ s.base.syncs.get? target.snapshotId = some snapshot ∧
      snapshot.caseId = caseId ∧ snapshot.publicId = target.report.snapshotPublicId)

theorem held_of_target {s : ReportStore lib} {owner : Text} {casePublicId snapshotPublicId : Uuid}
    {body : ReportBody} {target : CaptureTarget}
    (h : captureTarget s owner casePublicId snapshotPublicId body = .ok target) (caseId : Nat) :
    Held caseId target s := by
  obtain ⟨found, hfound, h⟩ := bind_eq_ok.mp h
  obtain ⟨_, hvalid, h⟩ := bind_eq_ok.mp h
  obtain ⟨snapshot, hsnapshot, h⟩ := bind_eq_ok.mp h
  cases h
  refine ⟨check_eq_ok.mp hvalid, ?_⟩
  rintro rfl
  have hcase := s.base.cases.find?_eq_some (present_eq_ok.mp hfound)
  have hsync : (s.base.syncs.find? fun _ row => Store.isSource found.1 row &&
      row.publicId = snapshotPublicId) = some snapshot := present_eq_ok.mp hsnapshot
  obtain ⟨hget, hp⟩ := s.base.syncs.find?_eq_some hsync
  simp only [Store.isSource, Bool.and_eq_true, decide_eq_true_eq] at hp
  exact ⟨found.2, snapshot.2, hcase.1, rfl, rfl, hget, hp.1.1.1, hp.2⟩

/-- What is held is coherent once it is a row. -/
theorem Held.coherent {caseId : Nat} {target : CaptureTarget} {s : ReportStore lib}
    (h : Held caseId target s) (hcase : target.caseId = caseId) (now : Instant) :
    Coherent s.base
      (revisionRow target.caseId target.snapshotId target.report now : RevisionRow lib) := by
  obtain ⟨c, snapshot, hc, hpublic, hsubject, hsnapshot, hsync, hsyncId⟩ := h.2 hcase
  subst hcase
  refine ⟨c, snapshot, target.report, hc, hsnapshot, ?_, ?_, hsubject.symm⟩
  · unfold loadReport revisionRow
    rw [lib.load_dump]
    exact Option.filter_eq_some_iff.mpr ⟨rfl, h.1⟩
  · unfold provenanceMatches revisionRow
    simp only [hsync, hpublic, hsyncId, decide_true, Bool.and_self]

/-! ## What a row reads as -/

/-- What a coherent row reads as, which no store decides. -/
def rowView (row : RevisionRow lib) : Option (RevisionSummary × ReportContent) :=
  (loadReport row.reportJson).map fun report =>
    ({ publicId := row.publicId
       contentHash := row.contentHash
       casePublicId := report.casePublicId
       snapshotPublicId := report.snapshotPublicId
       assurance := row.assurance
       capturedAt := row.createdAt
       activityDigest := row.activityDigest
       evidenceDigest := row.evidenceDigest
       activityCount := report.aggregate .totalItems
       evidenceAttemptCount := report.evidence .totalAttempts
       canonicalEligible := report.eligible
       limitationCount := report.limitations.length
       unverifiedClaimCount := report.unverifiedClaims.length }, report)

theorem rowView_of_stored {s : ReportStore lib} {found : Nat × CaseRow} {row : RevisionRow lib}
    {view : RevisionSummary × ReportContent} (h : s.stored found row = .ok view) :
    rowView row = some view := by
  obtain ⟨summary, report⟩ := view
  obtain ⟨hload, snapshot, -, hmatches, rfl⟩ := stored_eq_ok.mp h
  unfold provenanceMatches at hmatches
  simp only [Bool.and_eq_true, decide_eq_true_eq] at hmatches
  unfold rowView revisionSummary
  rw [hload, Option.map_some, hmatches.1.1.1.1.1.1.2, hmatches.1.1.1.1.1.2]

theorem stored_of_coherent {s : ReportStore lib} {row : RevisionRow lib}
    (h : Coherent s.base row) {c : CaseRow} (hc : s.base.cases.get? row.caseId = some c) :
    ∃ view, rowView row = some view ∧ s.stored (row.caseId, c) row = .ok view ∧
      view.2.subject = c.subject := by
  obtain ⟨c', snapshot, report, hc', hsnapshot, hload, hmatches, hsubject⟩ := h
  cases hc.symm.trans hc'
  have hstored : s.stored (row.caseId, c) row =
      .ok (revisionSummary c snapshot row report, report) :=
    stored_eq_ok.mpr ⟨hload, snapshot, hsnapshot, hmatches, rfl⟩
  exact ⟨_, rowView_of_stored hstored, hstored, hsubject⟩

/-! ## Runs that keep the case -/

/-- In runs that do not delete the case its revisions are coherent. -/
def revisionsCoherent (lib : ReportLibrary) (caseId : Nat) : Protocol (reportMachine lib) where
  inv := fun s : ReportStore lib =>
    ∀ id row, s.revisions.get? id = some row → row.caseId = caseId → Coherent s.base row
  allowed := KeepsReportCase lib caseId
  may := fun _ (w : ReportWrite lib) (s : ReportStore lib) =>
    ∀ row, w = .insertRevision row → row.caseId = caseId → Coherent s.base row
  preserved := by
    intro sid w s hinv hallowed hmay id row hrow hcase
    cases w with
    | base w =>
        refine (hinv id row (get?_cascade.mp hrow).1 hcase).base fun target now hw => ?_
        exact hcase ▸ hallowed target now (congrArg ReportWrite.base hw)
    | insertRevision row' =>
        change ((ReportWrite.insertRevision row').commit s).2.revisions.get? id = some row at hrow
        change Coherent ((ReportWrite.insertRevision row').commit s).2.base row
        obtain heq | ⟨-, heq⟩ := commit_insertRevision s row'
        · rw [heq] at hrow ⊢
          exact hinv id row hrow hcase
        · rw [heq] at hrow ⊢
          rw [Table.get?_insert] at hrow
          split at hrow
          · cases hrow
            exact hmay _ rfl hcase
          · exact hinv id row hrow hcase

/-- What a run that does not delete the case keeps of its revisions; a later
one is above them all. -/
structure RevisionsKept (caseId : Nat) (s s' : ReportStore lib) : Prop where
  kept : ∀ id row, s.revisions.get? id = some row → row.caseId = caseId →
    s'.revisions.get? id = some row
  above : ∀ id row, s'.revisions.get? id = some row → row.caseId = caseId →
    s.revisions.get? id = some row ∨
      ∀ b rb, s.revisions.get? b = some rb → rb.caseId = caseId → b < id

theorem RevisionsKept.refl (caseId : Nat) (s : ReportStore lib) : RevisionsKept caseId s s :=
  ⟨fun _ _ h _ => h, fun _ _ h _ => .inl h⟩

theorem RevisionsKept.trans {caseId : Nat} {s₁ s₂ s₃ : ReportStore lib}
    (h : RevisionsKept caseId s₁ s₂) (h' : RevisionsKept caseId s₂ s₃) :
    RevisionsKept caseId s₁ s₃ := by
  refine ⟨fun id row hrow hcase => h'.kept id row (h.kept id row hrow hcase) hcase,
    fun id row hrow hcase => ?_⟩
  obtain hmiddle | habove := h'.above id row hrow hcase
  · exact h.above id row hmiddle hcase
  · exact .inr fun b rb hb hbcase => habove b rb (h.kept b rb hb hbcase) hbcase

theorem revisionsKept_commit {caseId : Nat} (sid : Nat) {w : ReportWrite lib} {s : ReportStore lib}
    (hinv : (revisionsCoherent lib caseId).inv s) (hallowed : KeepsReportCase lib caseId sid w s) :
    RevisionsKept caseId s (w.commit s).2 := by
  cases w with
  | base w =>
      refine ⟨fun id row hrow hcase => get?_cascade.mpr ⟨hrow, ?_⟩,
        fun id row hrow _ => .inl (get?_cascade.mp hrow).1⟩
      obtain ⟨c, snapshot, -, hc, hsnapshot, -⟩ :=
        (hinv id row hrow hcase).base fun target now hw =>
          hcase ▸ hallowed target now (congrArg ReportWrite.base hw)
      rw [hc, hsnapshot]
      exact ⟨rfl, rfl⟩
  | insertRevision row' =>
      obtain heq | ⟨-, heq⟩ := commit_insertRevision s row'
      · rw [heq]
        exact .refl caseId s
      · rw [heq]
        constructor
        · intro id row hrow _
          rw [Table.get?_insert, if_neg (Nat.ne_of_lt (s.revisions.lt_nextId hrow))]
          exact hrow
        · intro id row hrow _
          rw [Table.get?_insert] at hrow
          split at hrow
          · next hid =>
              refine .inr fun b rb hb _ => ?_
              rw [hid]
              exact s.revisions.lt_nextId hb
          · exact .inl hrow

/-! ## The sessions of a run -/

section Sessions

variable {caseId sid : Nat}

theorem held_stable (target : CaptureTarget) :
    (revisionsCoherent lib caseId).Stable sid (Held caseId target) := by
  intro s other w _ _ hallowed _ held
  refine ⟨held.1, fun hcase => ?_⟩
  obtain ⟨c, snapshot, hc, hpublic, hsubject, hsnapshot, hsync, hsyncId⟩ := held.2 hcase
  cases w with
  | base w =>
      have hd : ∀ t now, w = .deleteCase t now → caseId ≠ t.caseId :=
        fun t now hw => hallowed t now (congrArg ReportWrite.base hw)
      obtain ⟨c', hc', hpublic', hsubject'⟩ := case_kept hd hc
      obtain ⟨snapshot', hsnapshot', hsync', hsyncId'⟩ :=
        sync_kept (fun t now hw => hsync ▸ hd t now hw) hsnapshot
      exact ⟨c', snapshot', hc', hpublic'.trans hpublic, hsubject'.trans hsubject, hsnapshot',
        hsync'.trans hsync, hsyncId'.trans hsyncId⟩
  | insertRevision row =>
      have hbase : ((ReportWrite.insertRevision row).commit s).2.base = s.base := by
        obtain heq | ⟨-, heq⟩ := commit_insertRevision s row <;> rw [heq]
      change ∃ c snapshot, ((ReportWrite.insertRevision row).commit s).2.base.cases.get? caseId =
        some c ∧ _ ∧ _ ∧ ((ReportWrite.insertRevision row).commit s).2.base.syncs.get?
          target.snapshotId = some snapshot ∧ _
      rw [hbase]
      exact ⟨c, snapshot, hc, hpublic, hsubject, hsnapshot, hsync, hsyncId⟩

/-- A stored revision of the case stays. -/
theorem row_stable {id : Nat} {row : RevisionRow lib} (hcase : row.caseId = caseId) :
    (revisionsCoherent lib caseId).Stable sid fun s : ReportStore lib =>
      s.revisions.get? id = some row :=
  fun _ other _ _ hinv hallowed _ hrow =>
    (revisionsKept_commit other hinv hallowed).kept id row hrow hcase

/-- The response has the stored revision of what was captured. -/
def ReturnsStored (caseId : Nat) (target : CaptureTarget) (response : CapturedRevision)
    (s : ReportStore lib) : Prop :=
  target.caseId = caseId → ∃ id row view, s.revisions.get? id = some row ∧
    row.caseId = caseId ∧ row.publicId = lib.contentHash target.report ∧
    rowView row = some view ∧ response.revision = view.1

theorem returnsStored_stable (target : CaptureTarget) (response : CapturedRevision) :
    (revisionsCoherent lib caseId).Stable sid (ReturnsStored caseId target response) := by
  intro s other w hother hinv hallowed hmay answers hcase
  obtain ⟨id, row, view, hrow, hrowCase, rest⟩ := answers hcase
  exact ⟨id, row, view, row_stable hrowCase s other w hother hinv hallowed hmay hrow, hrowCase,
    rest⟩

/-- What a capture promises of its result. -/
def CaptureAnswered (caseId : Nat) (result : Except RevisionRaised (CaptureTarget × CapturedRevision))
    (s : ReportStore lib) : Prop :=
  ∀ target response, result = .ok (target, response) → ReturnsStored caseId target response s

theorem revision?_eq_some {s : ReportStore lib} {k : Nat} {publicId : HexDigest}
    {found : Nat × RevisionRow lib} (h : s.revision? k publicId = some found) :
    s.revisions.get? found.1 = some found.2 ∧ found.2.caseId = k ∧
      found.2.publicId = publicId := by
  obtain ⟨hget, hp⟩ := s.revisions.find?_eq_some h
  simp only [Bool.and_eq_true, decide_eq_true_eq] at hp
  exact ⟨hget, hp.1, hp.2⟩

/-- The response after an insert that was refused, or whose row is there. -/
theorem returnsStored_of_after {s : ReportStore lib} {target : CaptureTarget}
    {inserted : Option Nat} {response : CapturedRevision}
    (h : capturedAfter s target inserted = .ok response)
    (hinserted : ∀ id, inserted = some id → target.caseId = caseId →
      ∃ now, s.revisions.get? id =
        some (revisionRow target.caseId target.snapshotId target.report now)) :
    ReturnsStored caseId target response s := by
  intro hcase
  obtain ⟨row, hrow, h⟩ := bind_eq_ok.mp h
  obtain ⟨c, -, h⟩ := bind_eq_ok.mp h
  obtain ⟨⟨summary, report⟩, hstored, h⟩ := bind_eq_ok.mp h
  cases h
  have view := rowView_of_stored hstored
  cases inserted with
  | some id =>
      obtain ⟨now, hget⟩ := hinserted id rfl hcase
      have hrow : s.revisions.get? id = some row := present_eq_ok.mp hrow
      cases hrow.symm.trans hget
      exact ⟨id, _, _, hget, hcase, rfl, view, rfl⟩
  | none =>
      obtain ⟨found, hfound, rfl⟩ := Option.map_eq_some_iff.mp (present_eq_ok.mp hrow)
      obtain ⟨hget, hfoundCase, hpublic⟩ := revision?_eq_some hfound
      exact ⟨found.1, found.2, _, hget, hfoundCase.trans hcase, hpublic, view, rfl⟩

/-- The insert of what is held. -/
theorem insertCaptured_triple (target : CaptureTarget) :
    (revisionsCoherent lib caseId).Triple sid (Held caseId target)
      (insertCaptured target : ReportJob lib _).run (CaptureAnswered caseId) := by
  intro s hinv held now s' hs'
  have held' : Held caseId target s' := (held_stable target).rely hs' held
  have hmay : (revisionsCoherent lib caseId).may sid
      (.insertRevision (revisionRow target.caseId target.snapshotId target.report now)) s' := by
    intro row hrow hcase
    cases hrow
    exact held'.coherent hcase now
  refine ⟨hmay, fun hallowed s₂ hs₂ => ?_⟩
  -- the row is there after the insert, and until it is read again
  have hinserted : ∀ id, ((ReportWrite.insertRevision
      (revisionRow target.caseId target.snapshotId target.report now)).commit s').1 = some id →
      target.caseId = caseId → ∃ now, s₂.revisions.get? id =
        some (revisionRow target.caseId target.snapshotId target.report now) := by
    intro id hid hcase
    refine ⟨now, (row_stable hcase).rely hs₂ ?_⟩
    change ((ReportWrite.insertRevision _).commit s').2.revisions.get? id = _
    obtain heq | ⟨-, heq⟩ := commit_insertRevision s'
      (revisionRow target.caseId target.snapshotId target.report now)
    · rw [heq] at hid
      cases hid
    · rw [heq] at hid ⊢
      cases hid
      rw [Table.get?_insert, if_pos rfl]
  cases hafter : capturedAfter s₂ target ((ReportWrite.insertRevision
      (revisionRow target.caseId target.snapshotId target.report now)).commit s').1 with
  | error raised =>
      change (revisionsCoherent lib caseId).pre sid ((liftRevision (capturedAfter s₂ target
        ((ReportWrite.insertRevision _).commit s').1) >>= _ : ReportJob lib _).run) _ _
      rw [hafter]
      exact ⟨hs₂.1, fun _ _ h => nomatch h⟩
  | ok response =>
      change (revisionsCoherent lib caseId).pre sid ((liftRevision (capturedAfter s₂ target
        ((ReportWrite.insertRevision _).commit s').1) >>= _ : ReportJob lib _).run) _ _
      rw [hafter]
      refine ⟨hs₂.1, fun target' response' h => ?_⟩
      cases h
      exact returnsStored_of_after hafter hinserted

/-- The response of a revision that was there. -/
theorem returnsStored_of_existing {s : ReportStore lib} {target : CaptureTarget}
    {existing : Nat × RevisionRow lib} {summary : RevisionSummary} {report : ReportContent}
    (hexisting : s.revision? target.caseId (lib.contentHash target.report) = some existing)
    (hstored : s.stored (target.caseId, target.row) existing.2 = .ok (summary, report)) :
    ReturnsStored caseId target ⟨target.row.publicId, false, summary⟩ s := by
  intro hcase
  obtain ⟨hget, hfoundCase, hpublic⟩ := revision?_eq_some hexisting
  exact ⟨existing.1, existing.2, _, hget, hfoundCase.trans hcase, hpublic,
    rowView_of_stored hstored, rfl⟩

theorem captureRevision_triple (owner : Text) (casePublicId snapshotPublicId : Uuid) :
    (revisionsCoherent lib caseId).Triple sid (fun _ => True)
      (captureRevision owner casePublicId snapshotPublicId : ReportJob lib _).run
      (CaptureAnswered caseId) := by
  intro s hinv _ built
  cases hbody : built.bind fun found : Option ReportBody => present found (.snapshotNotFound
      "Synchronize this Wallet Case before capturing a report revision.") with
  | error raised =>
      change (revisionsCoherent lib caseId).pre sid ((liftRevision (built.bind _) >>= _ :
        ReportJob lib _).run) _ _
      rw [hbody]
      exact ⟨hinv, fun _ _ h => nomatch h⟩
  | ok body =>
      change (revisionsCoherent lib caseId).pre sid ((liftRevision (built.bind _) >>= _ :
        ReportJob lib _).run) _ _
      rw [hbody]
      intro s' hs'
      cases htarget : captureTarget s' owner casePublicId snapshotPublicId body with
      | error raised =>
          change (revisionsCoherent lib caseId).pre sid ((liftRevision (captureTarget s' _ _ _ _)
            >>= _ : ReportJob lib _).run) _ _
          rw [htarget]
          exact ⟨hs'.1, fun _ _ h => nomatch h⟩
      | ok target =>
          change (revisionsCoherent lib caseId).pre sid ((liftRevision (captureTarget s' _ _ _ _)
            >>= _ : ReportJob lib _).run) _ _
          rw [htarget]
          have resumed : ∀ f : CaptureTarget → ReportJob lib (CaptureTarget × CapturedRevision),
              (liftRevision (.ok target) >>= f).run = (f target).run := fun _ => rfl
          rw [resumed]
          cases hexisting : s'.revision? target.caseId (lib.contentHash target.report) with
          | none => exact insertCaptured_triple target s' hs'.1 (held_of_target htarget caseId)
          | some existing =>
            dsimp only
            cases hstored : s'.stored (target.caseId, target.row) existing.2 with
            | error raised => exact ⟨hs'.1, fun _ _ h => nomatch h⟩
            | ok stored =>
                refine ⟨hs'.1, fun target' response' h => ?_⟩
                cases h
                exact returnsStored_of_existing hexisting hstored

/-- What a session promises of its reply. -/
def ReplyAnswered (caseId : Nat) (reply : ReportReply) (s : ReportStore lib) : Prop :=
  ∀ target response, reply = .captured target response → ReturnsStored caseId target response s

/-- The sessions of a run that does not delete the case. -/
theorem report_program_triple (sha : Sha256) (entry : ReportEntry) :
    (revisionsCoherent lib caseId).Triple sid (fun _ => True)
      ((reportSystem lib sha).program sid entry) (ReplyAnswered caseId) := by
  cases entry with
  | base entry =>
      refine Protocol.triple_bind (Protocol.safe_of_all (Prog.all_lift (fun w s _ row hrow => ?_) _))
        fun reply => Protocol.triple_done fun s _ target response h => nomatch h
      cases hrow
  | capture owner casePublicId snapshotPublicId =>
      refine Protocol.triple_bind (captureRevision_triple owner casePublicId snapshotPublicId)
        fun result => ?_
      cases result with
      | ok answered =>
          refine Protocol.triple_done fun s h target response heq => ?_
          cases heq
          exact h _ _ rfl
      | error raised => exact Protocol.triple_done fun s _ target response h => nomatch h

end Sessions

/-! ## Runs -/

/-- What holds at every store of a run that does not delete the case. -/
structure Readable (caseId : Nat) (s : ReportStore lib) : Prop where
  ids : PublicIds s.base
  unique : UniqueRevisions s
  coherent : (revisionsCoherent lib caseId).inv s

theorem publicIds_report {s : ReportStore lib} (w : ReportWrite lib) (h : PublicIds s.base) :
    PublicIds (w.commit s).2.base := by
  cases w with
  | base w => exact h.commit
  | insertRevision row =>
      obtain heq | ⟨-, heq⟩ := commit_insertRevision s row <;> rw [heq] <;> exact h

theorem unique_of_reaches {sha : Sha256} {world : World (reportSystem lib sha)}
    (reached : Reaches reportStart world) : UniqueRevisions world.state :=
  reached.inv UniqueRevisions (fun _ w _ _ h => h.commit w) fun _ _ _ _ h => (nomatch h)

variable {sha : Sha256} {caseId : Nat} {world world' : World (reportSystem lib sha)}

theorem revisionsKept_of_run
    (programs : ∀ sid entry, (revisionsCoherent lib caseId).Triple sid (fun _ => True)
      ((reportSystem lib sha).program sid entry) (ReplyAnswered caseId))
    (hinv : (revisionsCoherent lib caseId).inv world.state)
    (promised : (revisionsCoherent lib caseId).Promised (ReplyAnswered caseId) world)
    (rest : Run (KeepsReportCase lib caseId) world world') :
    RevisionsKept caseId world.state world'.state := by
  induction rest with
  | refl => exact .refl caseId _
  | step run move allowed ih =>
      obtain ⟨hinv', promised'⟩ := promised.run programs hinv run
      refine ih.trans ?_
      rw [World.state_step]
      split
      next sid w hcommit => exact revisionsKept_commit sid hinv' (allowed sid w hcommit)
      next => exact .refl caseId _

/-- From the start to a store, and on to a later one. -/
theorem readable_of_run (start : Run (KeepsReportCase lib caseId) reportStart world)
    (rest : Run (KeepsReportCase lib caseId) world world') :
    Readable caseId world'.state ∧ RevisionsKept caseId world.state world'.state ∧
      ∀ (sid : Nat) target response,
        world'.sessions[sid]? = some (.done (.captured target response)) →
        ReturnsStored caseId target response world'.state := by
  have programs : ∀ sid entry, (revisionsCoherent lib caseId).Triple sid (fun _ => True)
      ((reportSystem lib sha).program sid entry) (ReplyAnswered caseId) :=
    fun sid entry => report_program_triple sha entry
  have hinv₀ : (revisionsCoherent lib caseId).inv
      (reportStart : World (reportSystem lib sha)).state := fun _ _ h => nomatch h
  have promised₀ : (revisionsCoherent lib caseId).Promised (ReplyAnswered caseId)
      (reportStart : World (reportSystem lib sha)) := fun _ _ h => nomatch h
  have all := promised₀.run programs hinv₀ (start.trans rest)
  refine ⟨⟨?_, ?_, all.1⟩, ?_, ?_⟩
  · exact (start.trans rest).inv (fun s : ReportStore lib => PublicIds s.base)
      (fun _ w _ _ h => publicIds_report w h)
      ⟨fun _ _ _ _ h => (nomatch h), fun _ _ _ _ h => nomatch h⟩
  · exact unique_of_reaches ((start.trans rest).mono fun _ _ _ _ => trivial)
  · obtain ⟨hinv, promised⟩ := promised₀.run programs hinv₀ start
    exact revisionsKept_of_run programs hinv promised rest
  · intro sid target response hdone
    refine all.2.reply (fun sid value => ?_) hdone target response rfl
    intro s other w hother hinv hallowed hmay answered target response heq
    exact returnsStored_stable target response s other w hother hinv hallowed hmay
      (answered target response heq)

/-! ## Reading -/

section Reading

variable {s : ReportStore lib}

theorem requiredCase_active (ids : PublicIds s.base) {id : Nat} {c : CaseRow}
    (hc : s.base.cases.get? id = some c) (hactive : c.archivedAt = none) :
    s.requiredCase c.ownerScopeId c.publicId = .ok (id, c) :=
  present_eq_ok.mpr (caseByPublicId?_eq ids hc hactive)

theorem requiredCase_archived (ids : PublicIds s.base) {id : Nat} {c : CaseRow}
    (hc : s.base.cases.get? id = some c) (harchived : c.archivedAt ≠ none) :
    s.requiredCase c.ownerScopeId c.publicId = .error (.notFound "Wallet Case not found.") := by
  have hnone : s.base.caseByPublicId? c.ownerScopeId c.publicId = none := by
    refine s.base.cases.find?_eq_none.mpr fun other c' hc' => ?_
    by_contra hp
    simp only [Bool.not_eq_false, Bool.and_eq_true, decide_eq_true_eq,
      Option.isNone_iff_eq_none] at hp
    cases ids.cases other id c' c hc' hc hp.1.2
    cases hc'.symm.trans hc
    exact harchived hp.2
  unfold ReportStore.requiredCase
  rw [hnone]
  rfl

/-- A revision is read as it is, unless its case is archived. -/
theorem detail_of_readable {caseId : Nat} (readable : Readable caseId s) {id : Nat}
    {row : RevisionRow lib} (hrow : s.revisions.get? id = some row) (hcase : row.caseId = caseId)
    {c : CaseRow} (hc : s.base.cases.get? caseId = some c) :
    (c.archivedAt = none → ∃ view, rowView row = some view ∧
        s.detail c.ownerScopeId c.publicId row.publicId = .ok view) ∧
      (c.archivedAt ≠ none → s.detail c.ownerScopeId c.publicId row.publicId =
        .error (.notFound "Wallet Case not found.")) := by
  constructor
  · intro hactive
    subst hcase
    obtain ⟨view, hview, hstored, -⟩ := stored_of_coherent (readable.coherent id row hrow rfl) hc
    exact ⟨view, hview, bind_eq_ok.mpr ⟨_, requiredCase_active readable.ids hc hactive,
      bind_eq_ok.mpr ⟨_, present_eq_ok.mpr (revision?_eq readable.unique hrow), hstored⟩⟩⟩
  · intro harchived
    unfold ReportStore.detail
    rw [requiredCase_archived readable.ids hc harchived]
    rfl

/-- Two revisions of a case that is not archived are compared. -/
theorem compare_of_readable {caseId : Nat} (readable : Readable caseId s) {a b : Nat}
    {ra rb : RevisionRow lib} (ha : s.revisions.get? a = some ra) (hacase : ra.caseId = caseId)
    (hb : s.revisions.get? b = some rb) (hbcase : rb.caseId = caseId) {c : CaseRow}
    (hc : s.base.cases.get? caseId = some c) (hactive : c.archivedAt = none) :
    ∃ va vb, rowView ra = some va ∧ rowView rb = some vb ∧
      s.compare c.ownerScopeId c.publicId ra.publicId rb.publicId =
        .ok (revisionComparison va.1 vb.1 va.2 vb.2) := by
  subst hacase
  have hca := hc
  rw [← hbcase] at hca
  obtain ⟨va, hva, hstoredA, hsubjectA⟩ := stored_of_coherent (readable.coherent a ra ha rfl) hc
  obtain ⟨vb, hvb, hstoredB, hsubjectB⟩ :=
    stored_of_coherent (readable.coherent b rb hb hbcase) hca
  have hfound := revision?_eq readable.unique hb
  rw [hbcase] at hstoredB hfound
  exact ⟨va, vb, hva, hvb, compare_eq_ok.mpr ⟨_, requiredCase_active readable.ids hc hactive, _, _,
    revision?_eq readable.unique ha, hfound, va.1, va.2, vb.1, vb.2, hstoredA, hstoredB,
    hsubjectA.trans hsubjectB.symm, rfl⟩⟩

end Reading

end TonTracker
