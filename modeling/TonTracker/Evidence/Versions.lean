/-
# `Evidence.Versions` — when a version tells two states of a row apart

A transaction that selects its row by a condition adds one to the version
it finds; `_bind` and `_finish_cancelled` add one to the version they
read.  As long as such a write finds the version it read, versions grow
with every change a client can see (`evidence_versions_follow`); where a
cancellation commits in between, two states of the row have one version.
-/
import TonTracker.Evidence.Steps
import TonTracker.Concurrency.Sessions

namespace TonTracker

open Relational (Table)
open Session (World Run Move Reaches Protocol)

namespace EvidenceRow

/-- What a client can see of a row: all but its version and its lease. -/
def visible (e : EvidenceRow) : EvidenceRow :=
  { e with statusVersion := 0, leaseToken := none, leaseExpiresAt := none, heartbeatAt := none }

/-- `e'` is the row after `e`: a later version, or the same state. -/
def Follows (e e' : EvidenceRow) : Prop :=
  e.statusVersion < e'.statusVersion ∨
    e'.statusVersion = e.statusVersion ∧ e'.visible = e.visible

theorem Follows.refl (e : EvidenceRow) : e.Follows e := .inr ⟨rfl, rfl⟩

theorem Follows.trans {a b c : EvidenceRow} (hab : a.Follows b) (hbc : b.Follows c) :
    a.Follows c := by
  rcases hab with hab | ⟨hab, vab⟩ <;> rcases hbc with hbc | ⟨hbc, vbc⟩
  · exact .inl (lt_trans hab hbc)
  · exact .inl (hbc ▸ hab)
  · exact .inl (hab ▸ hbc)
  · exact .inr ⟨hbc.trans hab, vbc.trans vab⟩

@[simp] theorem terminated_statusVersion (e : EvidenceRow) (state : SyncState)
    (code : Option Text) (message : Text) (now : Instant) :
    (e.terminated state code message now).statusVersion = e.statusVersion + 1 := rfl

@[simp] theorem cleared_statusVersion (e : EvidenceRow) :
    e.cleared.statusVersion = e.statusVersion := rfl

@[simp] theorem terminalCancel_statusVersion (e : EvidenceRow) (valid : Bool) (message : Text)
    (now : Instant) : (e.terminalCancel valid message now).statusVersion = e.statusVersion + 1 := by
  unfold terminalCancel
  split <;> rfl

@[simp] theorem terminalRow_statusVersion (e : EvidenceRow) (valid : Bool) (digest : HexDigest)
    (code message : Text) (now : Instant) :
    (e.terminalRow valid digest code message now).statusVersion = e.statusVersion + 1 := by
  unfold terminalRow
  split
  · exact terminalCancel_statusVersion e valid _ now
  · split
    · split <;> rfl
    · rfl

/-- A row written back has the version after the one that was read. -/
theorem written_statusVersion {loaded changed : EvidenceRow} (e : EvidenceRow)
    (h : changed.statusVersion = loaded.statusVersion + 1) :
    (written loaded changed e).statusVersion = loaded.statusVersion + 1 := by
  change setIfChanged loaded.statusVersion changed.statusVersion e.statusVersion = _
  rw [setIfChanged, h, if_neg (Nat.succ_ne_self _)]

end EvidenceRow

namespace EvidenceWrite

/-- A write that reads no row before adds one to the version it finds; a
heartbeat changes only the lease. -/
theorem apply_follows {v : EvidenceWrite} (hv : v.writesBack = none) {id : Nat}
    {e e' : EvidenceRow} (happly : v.apply id e = some e') : e.Follows e' := by
  cases v with
  | enqueue row => cases happly
  | bind lease loaded artifact completedAt now leaseUntil => cases hv
  | finishCancelled lease loaded valid now terminalNow => cases hv
  | heartbeat lease now leaseUntil =>
      simp only [apply, Option.ite_none_right_eq_some, Option.some.injEq] at happly
      obtain ⟨-, rfl⟩ := happly
      exact .inr ⟨rfl, rfl⟩
  | finishRecoveredCancel jobId valid now =>
      simp only [apply, Option.ite_none_right_eq_some, Option.some.injEq] at happly
      obtain ⟨-, rfl⟩ := happly
      exact .inl (by rw [EvidenceRow.terminalCancel_statusVersion]; exact Nat.lt_succ_self _)
  | finishExpired jobId token leaseExpiresAt cutoff valid digest now =>
      simp only [apply, Option.ite_none_right_eq_some, Option.some.injEq] at happly
      obtain ⟨-, rfl⟩ := happly
      refine .inl ?_
      split
      · rw [EvidenceRow.terminalCancel_statusVersion]
        exact Nat.lt_succ_self _
      · rw [EvidenceRow.terminalRow_statusVersion]
        exact Nat.lt_succ_self _
  | finishFailure lease code message valid digest now terminalNow =>
      simp only [apply, Option.ite_none_right_eq_some, Option.some.injEq] at happly
      obtain ⟨-, rfl⟩ := happly
      exact .inl (by rw [EvidenceRow.terminalRow_statusVersion]; exact Nat.lt_succ_self _)
  | finishInvalidSelection lease code message valid now terminalNow =>
      simp only [apply, Option.ite_none_right_eq_some, Option.some.injEq] at happly
      obtain ⟨-, rfl⟩ := happly
      refine .inl ?_
      split
      · rw [EvidenceRow.terminalCancel_statusVersion]
        exact Nat.lt_succ_self _
      · exact Nat.lt_succ_self _
  | _ =>
      simp only [apply, Option.ite_none_right_eq_some, Option.some.injEq] at happly
      obtain ⟨-, rfl⟩ := happly
      exact .inl (Nat.lt_succ_self _)

/-- A row is written back under its own key, with the version after the
one that was read. -/
theorem apply_writesBack {v : EvidenceWrite} {id jobId : Nat} {loaded e e' : EvidenceRow}
    (hv : v.writesBack = some (jobId, loaded)) (happly : v.apply id e = some e') :
    id = jobId ∧ e'.statusVersion = loaded.statusVersion + 1 := by
  cases v with
  | bind lease row artifact completedAt now leaseUntil =>
      obtain ⟨rfl, rfl⟩ := Prod.mk.inj (Option.some.inj hv)
      simp only [apply, Option.ite_none_right_eq_some, Option.some.injEq, Bool.and_eq_true,
        decide_eq_true_eq] at happly
      obtain ⟨⟨⟨hid, -⟩, -⟩, rfl⟩ := happly
      exact ⟨hid, EvidenceRow.written_statusVersion e rfl⟩
  | finishCancelled lease row valid now terminalNow =>
      obtain ⟨rfl, rfl⟩ := Prod.mk.inj (Option.some.inj hv)
      simp only [apply, Option.ite_none_right_eq_some, Option.some.injEq, Bool.and_eq_true,
        decide_eq_true_eq] at happly
      obtain ⟨⟨⟨hid, -⟩, -⟩, rfl⟩ := happly
      exact ⟨hid, EvidenceRow.written_statusVersion e
        (EvidenceRow.terminalCancel_statusVersion _ _ _ _)⟩
  | _ => cases hv

end EvidenceWrite

/-! ## Writing back what was read -/

/-- A row that is written back has the version it was read with. -/
def Write.writesBackAsRead (w : Write) (s : Store) : Bool :=
  match w with
  | .evidence v => v.writesBack.all fun back =>
      (s.evidence.get? back.1).all fun e => e.statusVersion = back.2.statusVersion
  | _ => true

/-- The runs in which no row is written back over a later version. -/
def FaithfulWriteBacks (_ : Nat) (w : Write) (s : Store) : Prop :=
  w.writesBackAsRead s = true ∧ w.keepsCases = true

theorem FaithfulWriteBacks.keeps {sid : Nat} {w : Write} {s : Store}
    (hw : FaithfulWriteBacks sid w s) (target : CaseTarget) (now : Instant) :
    w ≠ .deleteCase target now := by
  rintro rfl
  exact absurd hw.2 Bool.false_ne_true

theorem FaithfulWriteBacks.version {sid : Nat} {v : EvidenceWrite} {s : Store}
    (hw : FaithfulWriteBacks sid (.evidence v) s) {id : Nat} {loaded e : EvidenceRow}
    (hv : v.writesBack = some (id, loaded)) (h : s.evidence.get? id = some e) :
    e.statusVersion = loaded.statusVersion := by
  have version := hw.1
  simp only [Write.writesBackAsRead, hv, Option.all_some, h, decide_eq_true_eq] at version
  exact version

/-- The row after a commit that writes back only what was read. -/
theorem FaithfulWriteBacks.follows {sid : Nat} {w : Write} {s : Store}
    (hw : FaithfulWriteBacks sid w s) {id : Nat} {e : EvidenceRow}
    (h : s.evidence.get? id = some e) :
    ∃ e', (w.commit s).2.evidence.get? id = some e' ∧ e.Follows e' := by
  obtain ⟨e', h'⟩ := Write.evidence_keeps
    (fun target now hdelete => absurd hdelete (hw.keeps target now)) h
  refine ⟨e', h', ?_⟩
  rcases Write.evidence_after h' with hsame | ⟨row, -, hnone, -, -⟩ | ⟨v, e₀, rfl, h₀, happly, -⟩
  · rw [h] at hsame
    cases hsame
    exact .refl _
  · rw [h] at hnone
    cases hnone
  · rw [h] at h₀
    cases h₀
    cases hv : v.writesBack with
    | none => exact EvidenceWrite.apply_follows hv happly
    | some back =>
        obtain ⟨jobId, loaded⟩ := back
        obtain ⟨rfl, hversion⟩ := EvidenceWrite.apply_writesBack hv happly
        refine .inl ?_
        rw [hversion, ← hw.version hv h]
        exact Nat.lt_succ_self _

/-- In these runs a row that is written back has come from the one that was
read. -/
def evidenceVersions : Protocol caseMachine where
  inv := fun _ => True
  allowed := FaithfulWriteBacks
  may := fun _ w s => ∀ v id loaded, w = .evidence v → v.writesBack = some (id, loaded) →
    ∃ e, s.evidence.get? id = some e ∧ loaded.Follows e
  preserved := fun _ _ _ _ _ _ => trivial

theorem evidenceVersions_permits (sid : Nat) : EvidencePermits evidenceVersions sid := by
  refine evidencePermits_of (A := fun lease loaded s =>
    ∃ e, s.evidence.get? lease.jobId = some e ∧ loaded.Follows e) ?_ ?_ ?_ ?_ ?_
  · intro v hv s _ v' id loaded hw hback
    cases hw
    rw [hv.writesBack] at hback
    cases hback
  · intro request caseId publicId resolved now s _ v id loaded hw hback
    cases hw
    cases hback
  · intro lease loaded s other w _ _ hw _ hA
    obtain ⟨e, he, hfollows⟩ := hA
    have faithful : FaithfulWriteBacks other w s := hw
    obtain ⟨e', he', hfollows'⟩ := faithful.follows he
    exact ⟨e', he', hfollows.trans hfollows'⟩
  · intro lease now loaded s _ howned
    exact ⟨loaded, (Option.filter_eq_some_iff.mp howned).1, .refl _⟩
  · intro v lease loaded s _ hv hA v' id loaded' hw hback
    cases hw
    rw [hv] at hback
    cases hback
    exact hA

theorem evidenceVersions_program (sha : Sha256) (sid : Nat) (entry : Entry) :
    evidenceVersions.Triple sid (fun _ => True) (program sha sid entry) fun _ _ => True := by
  have other : ∀ (w : Write) s, (∀ v, w ≠ .evidence v) → evidenceVersions.may sid w s :=
    fun w s hw v _ _ heq _ => absurd heq (hw v)
  refine @triple_program evidenceVersions sha (fun _ _ => True) ?_ ?_ evidenceVersions_permits
    sid entry
  · intro sid w s _ hw v id loaded heq
    subst heq
    cases hw
  · intro sid
    exact safe_runSyncOnce (fun _ _ _ _ _ _ heq => nomatch heq)
      (fun _ _ _ _ _ _ heq => nomatch heq)
      (fun _ _ _ _ _ _ _ _ heq => nomatch heq) sid

/-- In every run that writes back only what was read, a row goes from one
version to a later one with every change a client can see; and of a write
back, it is the condition that decides: it raises the version where it
finds the version that was read, and then overwrites nothing. -/
theorem evidence_versions_follow {sha : Sha256} {world : World (caseSystem sha)}
    (run : Run FaithfulWriteBacks start world) :
    (∀ world', Run FaithfulWriteBacks world world' → ∀ id e,
      world.state.evidence.get? id = some e →
        ∃ e', world'.state.evidence.get? id = some e' ∧ e.Follows e') ∧
      ∀ move sid v id loaded e e', world.commits move = some (sid, .evidence v) →
        v.writesBack = some (id, loaded) → world.state.evidence.get? id = some e →
        v.apply id e = some e' →
        (e.statusVersion < e'.statusVersion ↔ e.statusVersion = loaded.statusVersion) ∧
          (e.statusVersion = loaded.statusVersion → e.visible = loaded.visible) := by
  have covers : evidenceVersions.Covers (fun _ _ => True) world :=
    (Session.Protocol.covers_start trivial fun _ => trivial).run
      (fun _ => Session.Protocol.stable_true) (evidenceVersions_program sha) run
  constructor
  · intro world' rest id e h
    refine rest.inv (fun s : Store => ∃ e', s.evidence.get? id = some e' ∧ e.Follows e') ?_
      ⟨e, h, .refl e⟩
    rintro sid w s hw ⟨e', h', hfollows⟩
    obtain ⟨e'', h'', hfollows'⟩ := hw.follows h'
    exact ⟨e'', h'', hfollows.trans hfollows'⟩
  · intro move sid v id loaded e e' hcommit hback h happly
    obtain ⟨e₀, h₀, hfollows⟩ := covers.may hcommit v id loaded rfl hback
    rw [h] at h₀
    cases h₀
    obtain ⟨-, hversion⟩ := EvidenceWrite.apply_writesBack hback happly
    rcases hfollows with hlater | ⟨hsame, hvisible⟩
    · constructor
      · rw [hversion]
        exact iff_of_false (Nat.not_lt.mpr hlater) (Nat.ne_of_gt hlater)
      · exact fun hsame => absurd hsame (Nat.ne_of_gt hlater)
    · rw [hversion, hsame]
      exact ⟨iff_of_true (Nat.lt_succ_self _) rfl, fun _ => hvisible⟩

/-- The worker of the sample case has captured a trace and read the row to
bind it; before it writes, the verification is cancelled. -/
def sampleCancelledBinding : World (caseSystem sampleSha) :=
  sampleWorld (sampleMoves ++ sampleSession 4 .runEvidenceWorker 2004 (sampleUuid '4') 45 ++
    sampleSession 5 (.cancelEvidence sampleOwner (sampleUuid '0') (sampleUuid '3')) 2005
      (sampleUuid '5') 10)

/-- The binding is then committed with the version the cancellation has. -/
theorem evidence_version_repeated :
    ∃ e e', Reaches start sampleCancelledBinding ∧
      sampleCancelledBinding.state.evidence.get? 1 = some e ∧
      (sampleCancelledBinding.step
        (.run 4 (sampleAnswers 2006 (sampleUuid '4')))).state.evidence.get? 1 = some e' ∧
      e'.progressCurrent ≠ e.progressCurrent ∧ ¬ e.Follows e' := by
  have before : (sampleCancelledBinding.state.evidence.get? 1).map
      (fun e => (e.statusVersion, e.progressCurrent)) = some (4, 0) := by decide +kernel
  have after : ((sampleCancelledBinding.step
      (.run 4 (sampleAnswers 2006 (sampleUuid '4')))).state.evidence.get? 1).map
      (fun e => (e.statusVersion, e.progressCurrent)) = some (4, 1) := by decide +kernel
  obtain ⟨e, he, hbefore⟩ := Option.map_eq_some_iff.mp before
  obtain ⟨e', he', hafter⟩ := Option.map_eq_some_iff.mp after
  obtain ⟨version, progress⟩ := Prod.mk.inj hbefore
  obtain ⟨version', progress'⟩ := Prod.mk.inj hafter
  have changed : e'.progressCurrent ≠ e.progressCurrent := by
    rw [progress, progress']
    exact Nat.one_ne_zero
  refine ⟨e, e', sampleWorld_reached _, he, he', changed, ?_⟩
  rintro (hlater | ⟨-, hvisible⟩)
  · rw [version, version'] at hlater
    exact Nat.lt_irrefl _ hlater
  · exact changed (congrArg (·.progressCurrent) hvisible)

/-- Without the cancellation the worker writes back only what it read. -/
theorem evidence_versions_follow_sample :
    ∃ world : World (caseSystem sampleSha), Run FaithfulWriteBacks start world ∧
      ∃ e, world.state.evidence.get? 1 = some e ∧ e.progressCurrent = 4 ∧
        ∀ world', Run FaithfulWriteBacks world world' →
          ∃ e', world'.state.evidence.get? 1 = some e' ∧ e.Follows e' := by
  have run : Run FaithfulWriteBacks start (sampleWorld (sampleMoves ++
      sampleSession 4 .runEvidenceWorker 2004 (sampleUuid '4') 200)) := by
    refine Session.run_foldl (fun _ (w : Write) s => w.writesBackAsRead s && w.keepsCases) ?_ _
      start (by decide +kernel)
    intro sid w s h
    rw [Bool.and_eq_true] at h
    exact h
  have progress : ((sampleWorld (sampleMoves ++ sampleSession 4 .runEvidenceWorker 2004
      (sampleUuid '4') 200)).state.evidence.get? 1).map (·.progressCurrent) = some 4 := by
    decide +kernel
  obtain ⟨e, he, hprogress⟩ := Option.map_eq_some_iff.mp progress
  exact ⟨_, run, e, he, hprogress, fun world' rest =>
    (evidence_versions_follow run).1 world' rest 1 e he⟩

end TonTracker
