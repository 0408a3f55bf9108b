/-
# `Recovery.Exporter` — calls after a crash

A call on a directory that holds nothing but the lock, the pointer and
whole points succeeds unless something goes wrong during it; on any other
directory no call succeeds, and none changes that.
-/
import Mathlib.Data.Fintype.EquivFin
import TonTracker.Recovery.PointerSafety

namespace TonTracker.RecoveryPoint

open CrashRuns (Later StepAnswers after anyReply Meets meets_weaken meets_mono meets_exists does_mono
  does_rethrow)
open ExceptFold (check_eq_ok)

variable {Bytes Digest : Type} [DecidableEq Digest] (lib : RecoveryLibrary Bytes Digest)

/-- Whatever an environment without trouble answers, the call succeeds. -/
def Succeeds (call : Call Bytes Digest) (d : RecoveryDirectory Bytes) : Prop :=
  Meets (M := machine Bytes) (Untroubled call) (fun _ _ => True) (callProgram lib call)
    (fun result _ => ∃ point, result = .ok point) d

section Recovers

variable {lib} {d d' : RecoveryDirectory Bytes} {call : Call Bytes Digest}

theorem succeeds_of_clean (lawful : lib.Lawful) (hd : Sound lib d) (ready : Ready lib call d)
    (clean : Clean d) : Succeeds lib call d := by
  have h : Performs lib True call (createRecoveryPoint lib call) (Achieved lib call d) (Sound lib) d :=
    create_does lawful hd fun _ => ⟨ready, clean⟩
  refine meets_weaken (fun _ _ _ hq _ => hq) (fun _ _ _ => trivial) (meets_mono ?_ h)
  intro result d' hresult
  cases result with
  | ok point => exact ⟨point, rfl⟩
  | error raised => exact absurd trivial hresult.1

/-- What is not clean is refused, whatever the environment answers. -/
theorem refused_of_not_clean (hd : Sound lib d) (hclean : ¬Clean d) (call : Call Bytes Digest) :
    Meets (M := machine Bytes) anyReply (Careful lib) (callProgram lib call)
      (fun result d' => (∃ raised, result = .error raised) ∧
        (d' = d ∨ d' = { d with lock := true })) d := by
  have hlocked : Sound lib { d with lock := true } := hd.congr rfl rfl
  have hnot : ¬Clean { d with lock := true } := fun h => hclean ⟨h.temporaries, h.staging, h.points⟩
  have h : Performs lib False call (createRecoveryPoint lib call) (fun _ _ => False)
      (fun d' => d' = d ∨ d' = { d with lock := true }) d := by
    unfold createRecoveryPoint
    refine performs_via (fun _ d' => d' = d)
      (performs_checked (fun _ _ => rfl) (.inl rfl) False.elim) fun _ d₁ h₁ => ?_
    refine performs_via (fun _ d' => d' = d)
      (performs_checked (fun _ _ => h₁) (.inl h₁) False.elim) fun _ d₂ h₂ => ?_
    subst h₂
    refine does_rethrow ?_
    refine performs_via (fun _ d' => d' = { d₂ with lock := true })
      (performs_change (fun _ => careful_outside rfl hd rfl rfl) (fun _ d h => ?_) (.inl rfl)
        False.elim) fun _ d₃ h₃ => ?_
    · cases h
      rfl
    subst h₃
    unfold createRecoveryPointUnlocked
    apply performs_bind
    intro (listing : List EntryName) _
    exact performs_via (fun _ _ => False) (performs_inspect (fun u hu => hnot
      ((validateRootEntries_eq_ok hlocked listing).mp ⟨u, hu⟩)) (.inr rfl) False.elim)
      fun _ _ h => h.elim
  refine meets_weaken (fun _ _ _ _ hf => hf.elim) (fun _ _ h => h) (meets_mono ?_ h)
  intro result d' hresult
  cases result with
  | ok point => exact hresult.elim
  | error raised => exact ⟨⟨raised, rfl⟩, hresult.2⟩

/-- An environment without trouble has an answer to every question. -/
theorem untroubled_exists (ready : Ready lib call d) :
    ∀ (d' : RecoveryDirectory Bytes) (q : RecoveryQuery), (∃ torn : Bytes, True) →
      ∃ answer, Untroubled call d' q answer := by
  intro d' q ⟨torn, _⟩
  cases q with
  | io => exact ⟨some 0, nofun⟩
  | torn => exact ⟨torn, trivial⟩
  | utcnow => exact ⟨(0 : Int), rfl, by decide⟩
  | time =>
      obtain ⟨backup, hbackup, -⟩ := ready.backup
      refine ⟨backup.completedAt, fun backup' hbackup' => ?_⟩
      rw [hbackup] at hbackup'
      cases hbackup'
      refine ⟨(), ExceptFold.bind_eq_ok.mpr ⟨(), check_eq_ok.mpr ?_, check_eq_ok.mpr ?_⟩⟩ <;> omega
  | token =>
      obtain ⟨token, htoken⟩ := Infinite.exists_notMem_finset
        (d'.temporaries.keys ++ d'.staging.keys.map PointName.token ++
          d'.points.keys.map PointName.token).toFinset
      simp only [List.mem_toFinset, List.mem_append, not_or] at htoken
      obtain ⟨⟨htemporary, hstaging⟩, hpoint⟩ := htoken
      refine ⟨token, htemporary, fun name hname heq => ?_, fun name hname heq => ?_⟩
      · exact hstaging (List.mem_map.mpr ⟨name, hname, heq⟩)
      · exact hpoint (List.mem_map.mpr ⟨name, hname, heq⟩)
  | listing => exact ⟨[], trivial⟩

end Recovers

/-- In every directory that calls have led to, each possibly cut short, a
later call with a valid heartbeat, deployment manifest and retention
succeeds if and only if the directory is clean. -/
theorem exporter_recovers_iff (lawful : lib.Lawful) {d : RecoveryDirectory Bytes}
    (h : Reached lib d) {call : Call Bytes Digest} (ready : Ready lib call d) :
    Succeeds lib call d ↔ Clean d := by
  have hd := sound_reached lawful h
  refine ⟨fun hsucceeds => ?_, succeeds_of_clean lawful hd ready⟩
  by_contra hclean
  obtain ⟨backup, -, -⟩ := ready.backup
  obtain ⟨result, _, ⟨point, rfl⟩, ⟨raised, hraised⟩, -⟩ := meets_exists
    (fun d' q => untroubled_exists ready d' q ⟨backup.copy, trivial⟩) hsucceeds
      (refused_of_not_clean hd hclean call)
  cases hraised

/-! ## The directory of a first call that stopped after `os.mkdir` -/

def crashedAnswers : List (StepAnswers (machine SampleFile)) := List.replicate 13 sampleAnswers

/-- What the first call leaves behind. -/
def crashedDirectory : RecoveryDirectory SampleFile :=
  (after (callProgram sampleLibrary sampleCall) .fresh crashedAnswers).2

theorem crashedDirectory_reached : Reached sampleLibrary crashedDirectory :=
  .call .refl sampleCall crashedAnswers

theorem sampleCall_ready (d : RecoveryDirectory SampleFile) : Ready sampleLibrary sampleCall d where
  retention := by decide
  age := by decide
  backup := ⟨_, rfl, rfl, rfl, rfl, rfl, rfl, rfl⟩
  deployment := fun raw h => by
    cases h
    exact ⟨rfl, _, rfl, by decide⟩
  pointed := nofun
  createdAt := nofun

theorem crashedDirectory_not_clean : ¬Clean crashedDirectory := fun h =>
  h.staging samplePoint.directory (AList.lookup_isSome.mp rfl)

/-- The call after that crash is refused, though nothing goes wrong. -/
theorem exporter_stuck_after_mkdir :
    ¬∀ d, Reached sampleLibrary d → ∀ call, Ready sampleLibrary call d →
      Succeeds sampleLibrary call d := by
  intro h
  have succeeds := h crashedDirectory crashedDirectory_reached sampleCall (sampleCall_ready _)
  have refused := refused_of_not_clean (sound_reached sampleLibrary_lawful crashedDirectory_reached)
    crashedDirectory_not_clean sampleCall
  obtain ⟨result, _, ⟨point, rfl⟩, ⟨raised, hraised⟩, -⟩ := meets_exists
    (fun d' q => untroubled_exists (sampleCall_ready crashedDirectory) d' q ⟨.torn, trivial⟩)
      succeeds refused
  cases hraised

/-- There the equivalence says that the call does not succeed. -/
theorem exporter_recovers_iff_sample :
    Succeeds sampleLibrary sampleCall crashedDirectory ↔ Clean crashedDirectory :=
  exporter_recovers_iff sampleLibrary sampleLibrary_lawful crashedDirectory_reached
    (sampleCall_ready _)

end TonTracker.RecoveryPoint
