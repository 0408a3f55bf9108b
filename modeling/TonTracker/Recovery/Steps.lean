/-
# `Recovery.Steps` — what each step of a publication does

A recovery point whose manifest is there verifies, and so does what the
health pointer names (`Sound`): staging only adds complete points, and
retention takes the manifest first, from points the pointer does not name
(`Retires`).  Every procedure of the publication has one lemma, for any
answers and for untroubled ones alike (`Performs`).
-/
import TonTracker.Ops.RecoveryPoint

namespace TonTracker.RecoveryPoint

open Session (Machine Prog)
open CrashRuns (Replies anyReply Does Meets does_mono does_pure does_bind does_then does_rethrow
  does_cleanup does_throw does_swallow does_except)
open ExceptFold (check present check_eq_ok present_eq_ok bind_eq_ok)

variable {Bytes Digest : Type} [DecidableEq Digest]

/-- What the code relies on: a document this code writes is small and is
read back as it was, and a release manifest names a release. -/
structure RecoveryLibrary.Lawful (lib : RecoveryLibrary Bytes Digest) : Prop where
  manifest : ∀ payload, payload.release.tag.length ≤ nameMax →
    validatePointManifest lib payload = true →
      bounded lib maxJsonBytes (lib.dumpManifest payload) = true ∧
        lib.loadManifest (lib.dumpManifest payload) = some payload
  health : ∀ payload, payload.release.tag.length ≤ nameMax →
    payload.recoveryPoint.tag.length ≤ nameMax → validateHealth lib payload = true →
      bounded lib maxJsonBytes (lib.dumpHealth payload) = true ∧
        lib.loadHealth (lib.dumpHealth payload) = some payload
  release : ∀ raw release, lib.validateReleaseManifest raw = some release →
    releaseMatches lib release = true

variable (lib : RecoveryLibrary Bytes Digest)

/-! ## What every step keeps -/

/-- The name of the pointed-to point. -/
def Pointed (d : RecoveryDirectory Bytes) (name : PointName) : Prop :=
  ∃ health, readHealth lib d = .ok health ∧ health.recoveryPoint = name

/-- A point that verifies, under a name that fits. -/
def Verifies (name : PointName) (dir : PointDirectory Bytes) : Prop :=
  ∃ point, verifyRecoveryPoint lib name dir = .ok point ∧ point.tag.length + 60 ≤ nameMax

/-- Points with a manifest verify, and so does the pointer. -/
structure Sound (d : RecoveryDirectory Bytes) : Prop where
  points : ∀ name dir, d.points.lookup name = some dir → (dir.files .manifest).isSome →
    Verifies lib name dir
  pointer : ∀ raw, d.health = some raw → ∃ point, verifyRecoveryPointHealth lib d = .ok point

/-- The point, and the file or the directory itself, that a step removes. -/
def FileOp.retired : FileOp Bytes → Option (PointName × Option PointFile)
  | .unlinkPoint name file _ => some (name, some file)
  | .rmdirPoint name => some (name, none)
  | _ => none

/-- What is removed of a point is not pointed to; first its manifest, and
that from a point that verifies. -/
def Retires (d : RecoveryDirectory Bytes) (op : FileOp Bytes) : Prop :=
  ∀ name file, op.retired = some (name, file) → ¬Pointed lib d name ∧
    if file = some .manifest then ∃ point, verifyNamedPoint lib d name = .ok point
    else ∀ dir, d.points.lookup name = some dir → dir.files .manifest = none

/-- What every step of a call is. -/
def Careful (op : FileOp Bytes) (d : RecoveryDirectory Bytes) : Prop :=
  Retires lib d op ∧ Sound lib (op.commit d).2

section Sound

variable {lib}

theorem pointEntries_complete {dir : PointDirectory Bytes} {entries : Bytes × Bytes × Bytes}
    (h : pointEntries lib dir = .ok entries) : dir.complete = true := by
  unfold pointEntries at h
  obtain ⟨_, hcomplete, -⟩ := bind_eq_ok.mp h
  exact check_eq_ok.mp hcomplete

theorem Verifies.entries {name : PointName} {dir : PointDirectory Bytes}
    (h : Verifies lib name dir) : ∃ entries, pointEntries lib dir = .ok entries := by
  obtain ⟨point, h, -⟩ := h
  unfold verifyRecoveryPoint at h
  obtain ⟨entries, hentries, -⟩ := bind_eq_ok.mp h
  exact ⟨entries, hentries⟩

/-- The pointer is read off the health file alone, and its verification off
that and the points. -/
theorem readHealth_congr {d d' : RecoveryDirectory Bytes} (h : d'.health = d.health) :
    readHealth lib d' = readHealth lib d := by
  unfold readHealth
  rw [h]

theorem verifyHealth_congr {d d' : RecoveryDirectory Bytes} (h : d'.health = d.health)
    (hpoints : ∀ name, Pointed lib d name → d'.points.lookup name = d.points.lookup name) :
    verifyRecoveryPointHealth lib d' = verifyRecoveryPointHealth lib d := by
  unfold verifyRecoveryPointHealth
  rw [readHealth_congr h]
  cases hhealth : readHealth lib d with
  | error raised => rfl
  | ok health =>
      have same := hpoints health.recoveryPoint ⟨health, hhealth, rfl⟩
      show (verifyNamedPoint lib d' health.recoveryPoint >>= _) =
        (verifyNamedPoint lib d health.recoveryPoint >>= _)
      unfold verifyNamedPoint fileDigest
      rw [same]

/-- A verified pointer names a point that is there. -/
theorem pointer_there {d : RecoveryDirectory Bytes} {point : VerifiedPoint Digest}
    (h : verifyRecoveryPointHealth lib d = .ok point) :
    ∃ health dir, readHealth lib d = .ok health ∧
      d.points.lookup health.recoveryPoint = some dir ∧
        verifyRecoveryPoint lib health.recoveryPoint dir = .ok point := by
  unfold verifyRecoveryPointHealth at h
  obtain ⟨health, hhealth, h⟩ := bind_eq_ok.mp h
  obtain ⟨point', hpoint, h⟩ := bind_eq_ok.mp h
  obtain ⟨digest, -, h⟩ := bind_eq_ok.mp h
  obtain ⟨_, -, h⟩ := bind_eq_ok.mp h
  cases h
  unfold verifyNamedPoint at hpoint
  obtain ⟨dir, hdir, hpoint⟩ := bind_eq_ok.mp hpoint
  exact ⟨health, dir, hhealth, present_eq_ok.mp hdir, hpoint⟩

theorem verifyRecoveryPoint_directory {name : PointName} {dir : PointDirectory Bytes}
    {point : VerifiedPoint Digest} (h : verifyRecoveryPoint lib name dir = .ok point) :
    point.directory = name := by
  unfold verifyRecoveryPoint at h
  obtain ⟨_, -, h⟩ := bind_eq_ok.mp h
  obtain ⟨_, -, h⟩ := bind_eq_ok.mp h
  obtain ⟨_, -, h⟩ := bind_eq_ok.mp h
  obtain ⟨_, -, h⟩ := bind_eq_ok.mp h
  obtain ⟨_, -, h⟩ := bind_eq_ok.mp h
  obtain ⟨_, -, h⟩ := bind_eq_ok.mp h
  obtain ⟨_, -, h⟩ := bind_eq_ok.mp h
  obtain ⟨_, -, h⟩ := bind_eq_ok.mp h
  cases h
  rfl

theorem sound_fresh : Sound lib (RecoveryDirectory.fresh : RecoveryDirectory Bytes) where
  points := fun name dir h => nomatch h
  pointer := fun raw h => nomatch h

/-- Soundness is about the pointer and the points. -/
theorem Sound.congr {d d' : RecoveryDirectory Bytes} (h : Sound lib d)
    (hhealth : d'.health = d.health) (hpoints : d'.points = d.points) : Sound lib d' where
  points := hpoints ▸ h.points
  pointer := fun raw hraw => by
    rw [verifyHealth_congr hhealth fun _ _ => by rw [hpoints]]
    exact h.pointer raw (hhealth ▸ hraw)

/-- A change of one point that is not pointed to, after which it verifies or
has no manifest. -/
theorem Sound.update {d d' : RecoveryDirectory Bytes} (h : Sound lib d) {name : PointName}
    (hhealth : d'.health = d.health) (hname : ¬Pointed lib d name)
    (hother : ∀ other, other ≠ name → d'.points.lookup other = d.points.lookup other)
    (hverifies : ∀ dir, d'.points.lookup name = some dir → (dir.files .manifest).isSome →
      Verifies lib name dir) : Sound lib d' where
  points := fun other dir hdir hmanifest => by
    by_cases heq : other = name
    · subst heq
      exact hverifies dir hdir hmanifest
    · rw [hother other heq] at hdir
      exact h.points other dir hdir hmanifest
  pointer := fun raw hraw => by
    rw [verifyHealth_congr hhealth fun other hother' =>
      hother other fun heq => hname (heq ▸ hother')]
    exact h.pointer raw (hhealth ▸ hraw)

/-- A pointed-to point is complete. -/
theorem Sound.pointed {d : RecoveryDirectory Bytes} (h : Sound lib d) {name : PointName}
    (hname : Pointed lib d name) :
    ∃ dir, d.points.lookup name = some dir ∧ dir.complete = true := by
  obtain ⟨health, hhealth, rfl⟩ := hname
  have hraw : ∃ raw, d.health = some raw := by
    unfold readHealth at hhealth
    obtain ⟨raw, hraw, -⟩ := bind_eq_ok.mp hhealth
    exact ⟨raw, present_eq_ok.mp hraw⟩
  obtain ⟨raw, hraw⟩ := hraw
  obtain ⟨point, hpoint⟩ := h.pointer raw hraw
  obtain ⟨health', dir, hhealth', hdir, hverified⟩ := pointer_there hpoint
  rw [hhealth] at hhealth'
  cases hhealth'
  unfold verifyRecoveryPoint at hverified
  obtain ⟨_, hentries, -⟩ := bind_eq_ok.mp hverified
  exact ⟨dir, hdir, pointEntries_complete hentries⟩

theorem complete_not_empty {dir : PointDirectory Bytes} (h : dir.complete = true) :
    dir.isEmpty = false := by
  unfold PointDirectory.complete at h
  unfold PointDirectory.isEmpty
  rw [Bool.and_eq_true, Bool.and_eq_true, Bool.and_eq_true] at h
  obtain ⟨⟨⟨hmanifest, -⟩, -⟩, -⟩ := h
  cases hfile : dir.files .manifest with
  | none => rw [hfile] at hmanifest; cases hmanifest
  | some raw => rfl

end Sound

/-! ## Rules for the steps -/

/-- An answer of an environment without trouble: steps are made, tokens are
new, the clocks are those of a time at which the backup is not stale. -/
def Untroubled (call : Call Bytes Digest) : Replies (machine Bytes) := fun d q =>
  match q with
  | .io => fun time => time ≠ none
  | .token => fun token => token ∉ d.temporaries ∧
      (∀ name ∈ d.staging, name.token ≠ token) ∧ ∀ name ∈ d.points, name.token ≠ token
  | .time => fun now => ∀ backup, call.heartbeat = .ok backup →
      ∃ u, checkSourceAge call.maximumSourceAgeSeconds backup.completedAt now = .ok u
  | .utcnow => fun now => isTimestamp now = true ∧ yearThousand ≤ now
  | .torn => fun _ => True
  | .listing => fun _ => True

/-- A procedure of a call: careful in all it does, and where the environment
is `fine`, untroubled. -/
abbrev Performs {α : Type} (fine : Prop) (call : Call Bytes Digest) (body : Job Bytes α)
    (ok : α → RecoveryDirectory Bytes → Prop) (raised : RecoveryDirectory Bytes → Prop)
    (d : RecoveryDirectory Bytes) : Prop :=
  Does (M := machine Bytes) fine (fun d q answer => fine → Untroubled call d q answer) (Careful lib)
    body ok raised d

section Rules

variable {lib} {fine : Prop} {call : Call Bytes Digest} {α : Type}
  {raised : RecoveryDirectory Bytes → Prop} {d : RecoveryDirectory Bytes}

theorem performs_bind {β : Type} {body : Job Bytes α} {f : α → Job Bytes β}
    {ok : β → RecoveryDirectory Bytes → Prop}
    (h : Performs lib fine call body (fun value d' => Performs lib fine call (f value) ok raised d')
      raised d) : Performs lib fine call (body >>= f) ok raised d := does_bind h

/-- A procedure, and what follows it from any directory it leaves. -/
theorem performs_then {β : Type} {body : Job Bytes α} {f : α → Job Bytes β}
    {mid : α → RecoveryDirectory Bytes → Prop} {ok : β → RecoveryDirectory Bytes → Prop}
    (h : Performs lib fine call body mid raised d)
    (hf : ∀ value d', mid value d' → Performs lib fine call (f value) ok raised d') :
    Performs lib fine call (body >>= f) ok raised d := does_then h hf

/-- The same, where what is between is to be said. -/
theorem performs_via {β : Type} (mid : α → RecoveryDirectory Bytes → Prop) {body : Job Bytes α}
    {f : α → Job Bytes β} {ok : β → RecoveryDirectory Bytes → Prop}
    (h : Performs lib fine call body mid raised d)
    (hf : ∀ value d', mid value d' → Performs lib fine call (f value) ok raised d') :
    Performs lib fine call (body >>= f) ok raised d := does_then h hf

theorem performs_ask {q : RecoveryQuery} {ok : q.Answer Bytes → RecoveryDirectory Bytes → Prop}
    (h : ∀ answer, (fine → Untroubled call d q answer) → ok answer d) :
    Performs lib fine call (ask q) ok raised d := h

theorem performs_checked {checked : Except Raised α} {ok : α → RecoveryDirectory Bytes → Prop}
    (hok : ∀ value, checked = .ok value → ok value d) (hraised : raised d)
    (hfine : fine → ∃ value, checked = .ok value) :
    Performs lib fine call (liftChecked checked) ok raised d := does_except hok hraised hfine

theorem performs_perform {ok : Nat → RecoveryDirectory Bytes → Prop} (hok : ∀ time, ok time d)
    (hraised : raised d) : Performs lib fine call perform ok raised d := by
  unfold perform
  refine performs_bind fun time htime => ?_
  show Performs lib fine call (liftChecked (timeOf time)) ok raised d
  refine performs_checked (fun value _ => hok value) hraised fun h => ?_
  cases time with
  | none => exact absurd rfl (htime h)
  | some time => exact ⟨time, rfl⟩

/-- `fsync`, and what follows. -/
theorem performs_sync {f : Nat → Job Bytes α} {ok : α → RecoveryDirectory Bytes → Prop}
    (hraised : raised d) (h : ∀ time, Performs lib fine call (f time) ok raised d) :
    Performs lib fine call (perform >>= f) ok raised d :=
  performs_bind (performs_perform h hraised)

theorem performs_inspect {checked : RecoveryDirectory Bytes → Except Raised α}
    {ok : α → RecoveryDirectory Bytes → Prop} (hok : ∀ value, checked d = .ok value → ok value d)
    (hraised : raised d) (hfine : fine → ∃ value, checked d = .ok value) :
    Performs lib fine call (inspect checked) ok raised d := by
  unfold inspect
  apply performs_bind
  apply performs_perform _ hraised
  intro _
  show Performs lib fine call (liftChecked (checked d)) ok raised d
  exact performs_checked hok hraised hfine

theorem performs_change {op : Nat → FileOp Bytes} {ok : Unit → RecoveryDirectory Bytes → Prop}
    (careful : ∀ time, Careful lib (op time) d)
    (hok : ∀ time d', (op time).apply d = some d' → ok () d') (hraised : raised d)
    (hfine : fine → ∀ time, ((op time).apply d).isSome) :
    Performs lib fine call (change op) ok raised d := by
  unfold change
  apply performs_bind
  apply performs_perform _ hraised
  intro time
  refine ⟨careful time, ?_⟩
  cases happly : (op time).apply d with
  | none =>
      have same : ((machine Bytes).commit (op time) d) = (false, d) := by
        show ((op time).commit d) = _
        unfold FileOp.commit
        rw [happly]
        rfl
      rw [same]
      refine ⟨fun h => ?_, hraised⟩
      have some := hfine h time
      rw [happly] at some
      cases some
  | some d' =>
      have same : ((machine Bytes).commit (op time) d) = (true, d') := by
        show ((op time).commit d) = _
        unfold FileOp.commit
        rw [happly]
        rfl
      rw [same]
      exact hok time d' happly

theorem performs_discard {op : Nat → FileOp Bytes} {ok : Unit → RecoveryDirectory Bytes → Prop}
    (careful : ∀ time, Careful lib (op time) d) (hok : ∀ time, ok () ((op time).commit d).2)
    (hraised : raised d) : Performs lib fine call (discard op) ok raised d := by
  unfold discard
  apply performs_bind
  apply performs_perform _ hraised
  exact fun time => ⟨careful time, hok time⟩

/-- `finally`: what raised is raised again after the clean-up. -/
theorem performs_cleaning (mid : RecoveryDirectory Bytes → Prop) {body : Job Bytes α}
    {cleanup : Job Bytes Unit} {ok : α → RecoveryDirectory Bytes → Prop}
    (h : Performs lib fine call body ok mid d)
    (hcleanup : ∀ d', ¬fine → mid d' →
      Performs lib fine call cleanup (fun _ => raised) raised d') :
    Performs lib fine call (cleaning body cleanup) ok raised d := by
  refine does_cleanup h fun error d' hfine hmid => ?_
  exact does_then (hcleanup d' hfine hmid) fun _ d'' h => does_throw hfine h

end Rules

end TonTracker.RecoveryPoint
