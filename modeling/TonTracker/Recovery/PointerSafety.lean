/-
# `Recovery.PointerSafety` — the health pointer over whole histories

Calls follow one another on one directory, each ending on its own or cut
short after any of its steps.  Every directory they leave is sound, so from
the first success on the pointer verifies for good.
-/
import TonTracker.Recovery.Calls

namespace TonTracker.RecoveryPoint

open CrashRuns (Later StepAnswers after anyReply Meets meets_weaken meets_mono)

variable {Bytes Digest : Type} [DecidableEq Digest] (lib : RecoveryLibrary Bytes Digest)

/-- A call, as the program it is. -/
abbrev callProgram (call : Call Bytes Digest) :
    Session.Prog (machine Bytes) (Except Raised (VerifiedPoint Digest)) :=
  (createRecoveryPoint lib call).run

/-- The directories that calls lead to from `d`, each possibly cut short. -/
abbrev Calls (d d' : RecoveryDirectory Bytes) : Prop :=
  Later (M := machine Bytes) (callProgram lib) d d'

/-- Those of a destination that was empty. -/
abbrev Reached (d : RecoveryDirectory Bytes) : Prop := Calls lib .fresh d

section Histories

variable {lib} {d d' : RecoveryDirectory Bytes}

/-- A call, whatever it is answered. -/
theorem call_meets (lawful : lib.Lawful) (hd : Sound lib d) (call : Call Bytes Digest) :
    Meets (M := machine Bytes) anyReply (Careful lib) (callProgram lib call)
      (fun result d' => ∀ point, result = .ok point → Achieved lib call d point d') d := by
  have h : Performs lib False call (createRecoveryPoint lib call) (Achieved lib call d) (Sound lib) d :=
    create_does lawful hd False.elim
  refine meets_weaken (fun _ _ _ _ hf => hf.elim) (fun _ _ h => h) (meets_mono ?_ h)
  intro result d' hresult point heq
  subst heq
  exact hresult

theorem sound_calls (lawful : lib.Lawful) (h : Calls lib d d') (hd : Sound lib d) :
    Sound lib d' :=
  h.inv (Sound lib) (fun _ _ careful _ => careful.2)
    (fun call _ hs => meets_mono (fun _ _ _ => trivial) (call_meets lawful hs call)) hd

theorem sound_reached (lawful : lib.Lawful) (h : Reached lib d) : Sound lib d :=
  sound_calls lawful h sound_fresh

/-- No step takes the pointer away. -/
theorem health_kept (op : FileOp Bytes) (h : d.health.isSome) : (op.commit d).2.health.isSome := by
  show ((op.apply d).getD d).health.isSome
  cases happly : op.apply d with
  | none => exact h
  | some d' =>
      show d'.health.isSome
      by_cases hop : op.onStaging = true
      · rw [(frame_apply hop happly).health]
        exact h
      cases op with
      | createLock => cases happly; exact h
      | renameStaging name =>
          obtain ⟨dir, -, happly⟩ := Option.bind_eq_some_iff.mp happly
          split at happly <;> cases happly
          exact h
      | createTemporary token torn =>
          simp only [FileOp.apply] at happly
          split at happly <;> cases happly
          exact h
      | fillTemporary token content =>
          simp only [FileOp.apply] at happly
          split at happly <;> cases happly
          exact h
      | replaceHealth token =>
          obtain ⟨content, -, happly⟩ := Option.bind_eq_some_iff.mp happly
          cases happly
          rfl
      | unlinkTemporary token =>
          simp only [FileOp.apply] at happly
          split at happly <;> cases happly
          exact h
      | unlinkPoint name file time =>
          obtain ⟨dir, -, happly⟩ := Option.bind_eq_some_iff.mp happly
          split at happly <;> cases happly
          exact h
      | rmdirPoint name =>
          obtain ⟨dir, -, happly⟩ := Option.bind_eq_some_iff.mp happly
          split at happly <;> cases happly
          exact h
      | _ => exact absurd rfl hop

/-- Once there is a pointer it verifies, whatever is called and however it
ends. -/
theorem pointer_calls (lawful : lib.Lawful) (h : Calls lib d d') (hd : Sound lib d)
    (hpointer : d.health.isSome) : ∃ point, verifyRecoveryPointHealth lib d' = .ok point := by
  have kept : Sound lib d' ∧ d'.health.isSome := by
    refine h.inv (fun d : RecoveryDirectory Bytes => Sound lib d ∧ d.health.isSome)
      (fun op d careful hd => ⟨careful.2, health_kept op hd.2⟩)
      (fun call _ hs => meets_mono (fun _ _ _ => trivial) (call_meets lawful hs.1 call))
      ⟨hd, hpointer⟩
  obtain ⟨raw, hraw⟩ := Option.isSome_iff_exists.mp kept.2
  exact kept.1.pointer raw hraw

theorem pointer_isSome {point : VerifiedPoint Digest}
    (h : verifyRecoveryPointHealth lib d = .ok point) : d.health.isSome := by
  obtain ⟨health, dir, hread, -⟩ := pointer_there h
  unfold readHealth at hread
  obtain ⟨raw, hraw, -⟩ := ExceptFold.bind_eq_ok.mp hread
  rw [ExceptFold.present_eq_ok.mp hraw]
  rfl

/-- A pointer that verifies names a point that is there, whole. -/
theorem named_there {point : VerifiedPoint Digest}
    (h : verifyRecoveryPointHealth lib d = .ok point) :
    ∃ dir, d.points.lookup point.directory = some dir ∧ dir.complete = true := by
  obtain ⟨health, dir, -, hdir, hverified⟩ := pointer_there h
  obtain ⟨_, hentries, -⟩ := ExceptFold.bind_eq_ok.mp hverified
  rw [verifyRecoveryPoint_directory hverified]
  exact ⟨dir, hdir, pointEntries_complete hentries⟩

end Histories

/-- From any directory that calls have led to, a call that succeeds leaves
at most as many points as are retained, the new one among them and pointed
to; from then on the pointer names a complete point that verifies, wherever
any later call ends.  Wherever a call is stopped, what it removes next is
not the point the pointer names, and its manifest, which goes first, is
that of a point that verifies. -/
theorem recovery_pointer_safe (lawful : lib.Lawful) {d : RecoveryDirectory Bytes}
    (h : Reached lib d) (call : Call Bytes Digest) (cut : List (StepAnswers (machine Bytes))) :
    (∀ point, (after (callProgram lib call) d cut).1 = .done (.ok point) →
      Achieved lib call d point (after (callProgram lib call) d cut).2 ∧
        ∀ later, Calls lib (after (callProgram lib call) d cut).2 later →
          ∃ named dir, verifyRecoveryPointHealth lib later = .ok named ∧
            later.points.lookup named.directory = some dir ∧ dir.complete = true) ∧
      ∀ op, (after (callProgram lib call) d cut).1.pending = some op →
        Retires lib (after (callProgram lib call) d cut).2 op := by
  have hd := sound_reached lawful h
  have hcall := call_meets lawful hd call
  refine ⟨fun point hdone => ?_, fun op hop => ?_⟩
  · have achieved := CrashRuns.post_after hcall (CrashRuns.fair_any cut) hdone point rfl
    refine ⟨achieved, fun later hlater => ?_⟩
    obtain ⟨named, hnamed⟩ :=
      pointer_calls lawful hlater achieved.sound (pointer_isSome achieved.pointer)
    obtain ⟨dir, hdir, hcomplete⟩ := named_there hnamed
    exact ⟨named, dir, hnamed, hdir, hcomplete⟩
  · exact (CrashRuns.guarantee_after hcall (CrashRuns.fair_any cut) hop).1

/-! ## A library, and a call on it -/

/-- Files by what was written to them. -/
inductive SampleFile where
  | manifest (payload : PointManifest Nat)
  | health (payload : Health Nat)
  | release (release : Release)
  | database (revision : String)
  | torn

def sampleLibrary : RecoveryLibrary SampleFile Nat where
  size
    | .torn => 0
    | _ => 512
  sha256
    | .manifest _ => 1
    | .health _ => 2
    | .release _ => 3
    | .database _ => 4
    | .torn => 5
  validateReleaseManifest
    | .release release => some release
    | _ => none
  dumpManifest := .manifest
  loadManifest
    | .manifest payload => some payload
    | _ => none
  dumpHealth := .health
  loadHealth
    | .health payload => some payload
    | _ => none
  tagMatches := fun _ => true
  commitMatches := fun _ => true
  revisionMatches := fun _ => true
  backupNameMatches := fun _ => true
  verifyBackup
    | .database revision => some revision
    | _ => none

theorem sampleLibrary_lawful : sampleLibrary.Lawful where
  manifest := fun _ _ _ => ⟨rfl, rfl⟩
  health := fun _ _ _ _ => ⟨rfl, rfl⟩
  release := fun _ _ _ => rfl

def sampleCall : Call SampleFile Nat where
  heartbeat := .ok {
    file := "ton-check-20260710T000000Z.sqlite3"
    completedAt := 1783641600000000
    sha256 := 4
    schemaRevision := "20260710_0005"
    copy := .database "20260710_0005"
    unchanged := true }
  deploymentManifest := some (.release
    ⟨"v1.0.0", "0123456789abcdef0123456789abcdef01234567"⟩)
  retention := 2
  createdAt := none
  maximumSourceAgeSeconds := 172800

/-- Nothing goes wrong. -/
def sampleAnswers : StepAnswers (machine SampleFile)
  | .io => some 0
  | .torn => SampleFile.torn
  | .utcnow => (1783645200000000 : Int)
  | .time => (1783645200000000 : Int)
  | .token => (7 : Nat)
  | .listing => ([] : List EntryName)

/-- The point it makes. -/
def samplePoint : VerifiedPoint Nat where
  directory := ⟨"v1.0.0", 1783645200000000, 7⟩
  tag := "v1.0.0"
  sourceCommit := "0123456789abcdef0123456789abcdef01234567"
  manifestSha256 := 3
  databaseSha256 := 4
  databaseSizeBytes := 512
  schemaRevision := "20260710_0005"
  createdAt := 1783645200000000
  sourceBackupCompletedAt := 1783641600000000

set_option maxRecDepth 10000 in
/-- The first call on a fresh directory, run to its end. -/
theorem recovery_pointer_safe_sample :
    Achieved sampleLibrary sampleCall .fresh samplePoint
        (after (callProgram sampleLibrary sampleCall) .fresh (List.replicate 100 sampleAnswers)).2 ∧
      ∀ later, Calls sampleLibrary
          (after (callProgram sampleLibrary sampleCall) .fresh
            (List.replicate 100 sampleAnswers)).2 later →
        ∃ named dir, verifyRecoveryPointHealth sampleLibrary later = .ok named ∧
          later.points.lookup named.directory = some dir ∧ dir.complete = true :=
  (recovery_pointer_safe sampleLibrary sampleLibrary_lawful .refl sampleCall
    (List.replicate 100 sampleAnswers)).1 samplePoint rfl

end TonTracker.RecoveryPoint
