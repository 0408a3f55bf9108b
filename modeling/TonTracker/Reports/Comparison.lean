/-
# `Reports.Comparison` — comparing two stored revisions

Every comparison of two reports that `_stored` returns passes its own
schema (`comparison_valid`), so `compare` fails only where a revision is not
there or the subjects differ; and turned round, it is the mirror of itself.
-/
import TonTracker.Services.WalletCaseReportRevisions

namespace TonTracker

open ExceptFold (bind_eq_ok check_eq_ok present_eq_ok)

/-! ## Codes -/

section Codes

variable {κ : Type} {text : κ → String}

theorem canonicalCodes_sort {codes : Finset String} {maximum : Nat} (h : codes.card ≤ maximum) :
    canonicalCodes maximum codes.sort = true := by
  unfold canonicalCodes
  rw [Bool.and_eq_true, Bool.and_eq_true, decide_eq_true_eq, decide_eq_true_eq, decide_eq_true_eq,
    Finset.length_sort]
  exact ⟨⟨h, codes.pairwise_sort (· ≤ ·)⟩, codes.sort_nodup (· ≤ ·)⟩

/-- No more codes than there are. -/
theorem card_le_of_codes [Fintype κ] {codes : Finset String}
    (h : ∀ code ∈ codes, ∃ k, text k = code) : codes.card ≤ Fintype.card κ := by
  have hsub : codes ⊆ Finset.univ.image text := by
    intro code hcode
    obtain ⟨k, rfl⟩ := h code hcode
    exact Finset.mem_image_of_mem text (Finset.mem_univ k)
  exact (Finset.card_le_card hsub).trans Finset.card_image_le

theorem mem_itemCodes {items : List (ReportItem κ)} {code : String}
    (h : code ∈ itemCodes text items) : ∃ k, text k = code := by
  unfold itemCodes at h
  rw [List.mem_toFinset, List.mem_map] at h
  obtain ⟨item, -, rfl⟩ := h
  exact ⟨item.code, rfl⟩

/-- Where every code is a plain one and there are not many. -/
theorem codeChanges_valid [Fintype κ] (hcard : Fintype.card κ ≤ 64)
    (hplain : ∀ k, plainCode (text k) = true) (baseline target : List (ReportItem κ)) :
    (codeChanges text baseline target).valid = true := by
  have good : ∀ codes : Finset String, (∀ code ∈ codes, ∃ k, text k = code) →
      (canonicalCodes 64 codes.sort && codes.sort.all plainCode) = true := by
    intro codes hcodes
    rw [Bool.and_eq_true, List.all_eq_true]
    refine ⟨canonicalCodes_sort ((card_le_of_codes hcodes).trans hcard), fun code hcode => ?_⟩
    obtain ⟨k, rfl⟩ := hcodes code ((Finset.mem_sort _).mp hcode)
    exact hplain k
  have added := good (itemCodes text target \ itemCodes text baseline)
    fun code hcode => mem_itemCodes (Finset.mem_sdiff.mp hcode).1
  have removed := good (itemCodes text baseline \ itemCodes text target)
    fun code hcode => mem_itemCodes (Finset.mem_sdiff.mp hcode).1
  have modified := good ((itemCodes text baseline ∩ itemCodes text target).filter fun code =>
      codeGroup text baseline code ≠ codeGroup text target code)
    fun code hcode => mem_itemCodes (Finset.mem_inter.mp (Finset.mem_filter.mp hcode).1).1
  unfold CodeChanges.valid codeChanges
  simp only [List.all_cons, List.all_nil, Bool.and_true, Bool.and_eq_true, decide_eq_true_eq,
    Finset.sort_toFinset]
  simp only [Bool.and_eq_true] at added removed modified
  refine ⟨⟨⟨added, removed, modified⟩, ?_⟩, ?_⟩
  · rw [Finset.disjoint_left]
    intro code hadded hremoved
    exact (Finset.mem_sdiff.mp hadded).2 (Finset.mem_sdiff.mp hremoved).1
  · rw [Finset.disjoint_left]
    intro code hchanged hmodified
    obtain ⟨hbaseline, htarget⟩ := Finset.mem_inter.mp (Finset.mem_filter.mp hmodified).1
    rcases Finset.mem_union.mp hchanged with hadded | hremoved
    · exact (Finset.mem_sdiff.mp hadded).2 hbaseline
    · exact (Finset.mem_sdiff.mp hremoved).2 htarget

end Codes

/-! ## The schema -/

section Valid

variable {lib : ReportLibrary} {s : ReportStore lib} {found : Nat × CaseRow}

/-- What `_stored` returns. -/
theorem stored_eq_ok {row : RevisionRow lib} {summary : RevisionSummary} {report : ReportContent} :
    s.stored found row = .ok (summary, report) ↔
      loadReport row.reportJson = some report ∧ ∃ snapshot,
        s.base.syncs.get? row.snapshotSyncId = some snapshot ∧
          provenanceMatches found.1 found.2 snapshot row report = true ∧
          summary = revisionSummary found.2 snapshot row report := by
  constructor
  · intro h
    obtain ⟨report', hload, h⟩ := bind_eq_ok.mp h
    obtain ⟨snapshot, hsnapshot, h⟩ := bind_eq_ok.mp h
    obtain ⟨_, hmatches, h⟩ := bind_eq_ok.mp h
    cases h
    exact ⟨present_eq_ok.mp hload, snapshot, present_eq_ok.mp hsnapshot,
      check_eq_ok.mp hmatches, rfl⟩
  · rintro ⟨hload, snapshot, hsnapshot, hmatches, rfl⟩
    exact bind_eq_ok.mpr ⟨report, present_eq_ok.mpr hload, bind_eq_ok.mpr ⟨snapshot,
      present_eq_ok.mpr hsnapshot, bind_eq_ok.mpr ⟨(), check_eq_ok.mpr hmatches, rfl⟩⟩⟩

/-- A summary beside the report it summarises. -/
structure Summarises (c : CaseRow) (summary : RevisionSummary) (report : ReportContent) : Prop where
  valid : report.valid = true
  address : summary.publicId = summary.contentHash
  casePublicId : summary.casePublicId = c.publicId
  snapshotPublicId : summary.snapshotPublicId = report.snapshotPublicId
  assurance : summary.assurance = report.assurance
  activityDigest : summary.activityDigest = report.activityDigest
  evidenceDigest : summary.evidenceDigest = report.evidenceDigest
  activityCount : summary.activityCount = report.aggregate .totalItems
  evidenceAttemptCount : summary.evidenceAttemptCount = report.evidence .totalAttempts
  canonicalEligible : summary.canonicalEligible = report.eligible

theorem summarises_of_stored {row : RevisionRow lib} {summary : RevisionSummary}
    {report : ReportContent} (h : s.stored found row = .ok (summary, report)) :
    Summarises found.2 summary report := by
  obtain ⟨hload, snapshot, -, hmatches, rfl⟩ := stored_eq_ok.mp h
  have valid := (Option.filter_eq_some_iff.mp hload).2
  unfold provenanceMatches at hmatches
  simp only [Bool.and_eq_true, decide_eq_true_eq] at hmatches
  obtain ⟨⟨⟨⟨⟨⟨⟨⟨-, -⟩, -⟩, hsnapshot⟩, hpublic⟩, hhash⟩, hassurance⟩, hactivity⟩, hevidence⟩ :=
    hmatches
  exact ⟨valid, hpublic.trans hhash.symm, rfl, hsnapshot.symm, hassurance, hactivity, hevidence,
    rfl, rfl, rfl⟩

theorem Summarises.coherent {c : CaseRow} {summary : RevisionSummary} {report : ReportContent}
    (h : Summarises c summary report) : summary.coherent = true := by
  have valid := h.valid
  unfold ReportContent.valid at valid
  simp only [Bool.and_eq_true, decide_eq_true_eq] at valid
  unfold RevisionSummary.coherent
  rw [Bool.and_eq_true, decide_eq_true_eq, decide_eq_true_eq]
  refine ⟨h.address, ?_⟩
  rw [h.assurance, h.canonicalEligible]
  exact valid.1.1.1.2

/-- A comparison passes its schema. -/
theorem comparison_valid {c : CaseRow} {baselineSummary targetSummary : RevisionSummary}
    {baseline target : ReportContent} (hb : Summarises c baselineSummary baseline)
    (ht : Summarises c targetSummary target) :
    (revisionComparison baselineSummary targetSummary baseline target).valid c.publicId = true := by
  have gate : ∀ a b : List GateCode, ((a.map GateCode.text).toFinset \
      (b.map GateCode.text).toFinset).card ≤ 16 := by
    intro a b
    refine (@card_le_of_codes _ GateCode.text _ _ fun code hcode => ?_).trans (by decide)
    obtain ⟨k, -, hk⟩ := List.mem_map.mp (List.mem_toFinset.mp (Finset.mem_sdiff.mp hcode).1)
    exact ⟨k, hk⟩
  have disjoint : ∀ a b : Finset String, Disjoint (a \ b) (b \ a) := fun a b =>
    disjoint_sdiff_sdiff
  have gaps := @codeChanges_valid _ GapCode.text _ (by decide) (by decide +kernel)
    baseline.gaps target.gaps
  have limitations := @codeChanges_valid _ LimitationCode.text _ (by decide) (by decide +kernel)
    baseline.limitations target.limitations
  have claims := @codeChanges_valid _ GateCode.text _ (by decide) (by decide +kernel)
    baseline.unverifiedClaims target.unverifiedClaims
  unfold RevisionComparison.valid
  simp only [Bool.and_eq_true]
  refine ⟨⟨⟨⟨⟨⟨hb.coherent, ht.coherent⟩, ?_⟩, ?_⟩, ?_⟩, ?_⟩, ?_⟩
  · simp [RevisionComparison.exact, revisionComparison, integerDelta, transition,
      IntegerDelta.exact, Transition.exact]
  · unfold RevisionComparison.gateValid revisionComparison
    dsimp only
    rw [canonicalCodes_sort (gate _ _), canonicalCodes_sort (gate _ _), Finset.sort_toFinset,
      Finset.sort_toFinset, decide_eq_true (disjoint _ _)]
    rfl
  · simp only [List.all_cons, List.all_nil, Bool.and_true, Bool.and_eq_true]
    exact ⟨gaps, limitations, claims⟩
  · simp [RevisionComparison.summariesAgree, revisionComparison, transition, hb.casePublicId,
      ht.casePublicId, hb.snapshotPublicId, ht.snapshotPublicId, hb.assurance, ht.assurance,
      hb.canonicalEligible, ht.canonicalEligible]
  · simp [RevisionComparison.deltasAgree, revisionComparison, integerDelta, hb.activityDigest,
      ht.activityDigest, hb.evidenceDigest, ht.evidenceDigest, hb.activityCount, ht.activityCount,
      hb.evidenceAttemptCount, ht.evidenceAttemptCount]

/-- `compare`, where it returns. -/
theorem compare_eq_ok {owner : Text} {casePublicId : Uuid} {baselineId targetId : HexDigest}
    {x : RevisionComparison} :
    s.compare owner casePublicId baselineId targetId = .ok x ↔
      ∃ found, s.requiredCase owner casePublicId = .ok found ∧
        ∃ a b : Nat × RevisionRow lib, s.revision? found.1 baselineId = some a ∧
          s.revision? found.1 targetId = some b ∧
          ∃ summaryA reportA summaryB reportB, s.stored found a.2 = .ok (summaryA, reportA) ∧
            s.stored found b.2 = .ok (summaryB, reportB) ∧ reportA.subject = reportB.subject ∧
            x = revisionComparison summaryA summaryB reportA reportB := by
  constructor
  · intro h
    obtain ⟨found, hfound, h⟩ := bind_eq_ok.mp h
    obtain ⟨a, ha, h⟩ := bind_eq_ok.mp h
    obtain ⟨b, hb, h⟩ := bind_eq_ok.mp h
    obtain ⟨⟨summaryA, reportA⟩, hstoredA, h⟩ := bind_eq_ok.mp h
    obtain ⟨⟨summaryB, reportB⟩, hstoredB, h⟩ := bind_eq_ok.mp h
    obtain ⟨_, hsubject, h⟩ := bind_eq_ok.mp h
    obtain ⟨_, -, h⟩ := bind_eq_ok.mp h
    cases h
    exact ⟨found, hfound, a, b, present_eq_ok.mp ha, present_eq_ok.mp hb, summaryA, reportA,
      summaryB, reportB, hstoredA, hstoredB, check_eq_ok.mp hsubject, rfl⟩
  · rintro ⟨found, hfound, a, b, ha, hb, summaryA, reportA, summaryB, reportB, hstoredA, hstoredB,
      hsubject, rfl⟩
    have valid := comparison_valid (summarises_of_stored hstoredA) (summarises_of_stored hstoredB)
    exact bind_eq_ok.mpr ⟨found, hfound, bind_eq_ok.mpr ⟨a, present_eq_ok.mpr ha,
      bind_eq_ok.mpr ⟨b, present_eq_ok.mpr hb, bind_eq_ok.mpr ⟨_, hstoredA,
        bind_eq_ok.mpr ⟨_, hstoredB, bind_eq_ok.mpr ⟨(), check_eq_ok.mpr hsubject,
          bind_eq_ok.mpr ⟨(), check_eq_ok.mpr valid, rfl⟩⟩⟩⟩⟩⟩⟩

end Valid

/-! ## The mirror -/

def IntegerDelta.mirror (d : IntegerDelta) : IntegerDelta := ⟨d.target, d.baseline, -d.delta⟩

def Transition.mirror {α : Type} (t : Transition α) : Transition α :=
  ⟨t.target, t.baseline, t.changed⟩

def CodeChanges.mirror (changes : CodeChanges) : CodeChanges :=
  { changes with added := changes.removed, removed := changes.added }

/-- The comparison the other way round: what was added is removed, and the
deltas are negated. -/
def RevisionComparison.mirror (x : RevisionComparison) : RevisionComparison :=
  { x with
    baseline := x.target
    target := x.baseline
    assurance := x.assurance.mirror
    activity := fun key => (x.activity key).mirror
    evidence := fun key => (x.evidence key).mirror
    historyTruncated := x.historyTruncated.mirror
    eligible := x.eligible.mirror
    newlyUnmet := x.resolved
    resolved := x.newlyUnmet
    gaps := x.gaps.mirror
    limitations := x.limitations.mirror
    unverifiedClaims := x.unverifiedClaims.mirror }

theorem integerDelta_mirror (a b : Nat) : integerDelta b a = (integerDelta a b).mirror := by
  unfold integerDelta IntegerDelta.mirror
  rw [Int.neg_sub]

theorem transition_mirror {α : Type} [DecidableEq α] (a b : α) :
    transition b a = (transition a b).mirror := by
  unfold transition Transition.mirror
  dsimp only
  rw [decide_eq_decide.mpr (ne_comm : b ≠ a ↔ a ≠ b)]

theorem codeChanges_mirror {κ : Type} (text : κ → String) (a b : List (ReportItem κ)) :
    codeChanges text b a = (codeChanges text a b).mirror := by
  unfold codeChanges CodeChanges.mirror
  dsimp only
  rw [Finset.inter_comm (itemCodes text b)]
  simp only [ne_comm, eq_comm]

/-- Turned round, a comparison is its mirror. -/
theorem revisionComparison_mirror (summaryA summaryB : RevisionSummary) (a b : ReportContent) :
    revisionComparison summaryB summaryA b a =
      (revisionComparison summaryA summaryB a b).mirror := by
  unfold revisionComparison RevisionComparison.mirror
  simp only [← integerDelta_mirror, ← transition_mirror, ← codeChanges_mirror,
    Finset.inter_comm (b.unmet.map GateCode.text).toFinset]
  simp only [ne_comm, eq_comm]

theorem compare_mirror {lib : ReportLibrary} {s : ReportStore lib} {owner : Text}
    {casePublicId : Uuid} {a b : HexDigest} {x : RevisionComparison}
    (h : s.compare owner casePublicId a b = .ok x) :
    s.compare owner casePublicId b a = .ok x.mirror := by
  obtain ⟨found, hfound, rowA, rowB, ha, hb, summaryA, reportA, summaryB, reportB, hstoredA,
    hstoredB, hsubject, rfl⟩ := compare_eq_ok.mp h
  exact compare_eq_ok.mpr ⟨found, hfound, rowB, rowA, hb, ha, summaryB, reportB, summaryA, reportA,
    hstoredB, hstoredA, hsubject.symm, (revisionComparison_mirror _ _ _ _).symm⟩

end TonTracker
