/-
# `Recovery.Staging` — from `os.mkdir` to the point's place

The files of a staging directory are known at each step, and until it is
renamed neither the pointer nor a point has changed (`Staged`).  What takes
its place verifies: the manifest was written about the bytes beside it
(`verify_staged`).
-/
import TonTracker.Recovery.Steps

namespace TonTracker.RecoveryPoint

open CrashRuns (does_mono does_pure does_throw does_swallow)
open ExceptFold (check present check_eq_ok present_eq_ok bind_eq_ok)

variable {Bytes Digest : Type} [DecidableEq Digest] (lib : RecoveryLibrary Bytes Digest)

/-! ## Staging -/

/-- Staging changes neither the pointer nor a point. -/
structure Frame (d₀ d : RecoveryDirectory Bytes) : Prop where
  health : d.health = d₀.health
  points : d.points = d₀.points
  temporaries : d.temporaries = d₀.temporaries

theorem Frame.trans {d₀ d d' : RecoveryDirectory Bytes} (h : Frame d₀ d) (h' : Frame d d') :
    Frame d₀ d' where
  health := h'.health.trans h.health
  points := h'.points.trans h.points
  temporaries := h'.temporaries.trans h.temporaries

def FileOp.onStaging : FileOp Bytes → Bool
  | .mkdirStaging _ _ | .createStaged _ _ _ _ | .fillStaged _ _ _ _ | .linkDatabase _ _
  | .unlinkStaged _ _ _ | .rmdirStaging _ => true
  | _ => false

theorem frame_apply {op : FileOp Bytes} (hop : op.onStaging = true)
    {d d' : RecoveryDirectory Bytes} (h : op.apply d = some d') : Frame d d' := by
  cases op with
  | mkdirStaging name time =>
      simp only [FileOp.apply] at h
      split at h <;> cases h
      exact ⟨rfl, rfl, rfl⟩
  | createStaged name file torn time =>
      obtain ⟨dir, -, h⟩ := Option.bind_eq_some_iff.mp h
      split at h <;> cases h
      exact ⟨rfl, rfl, rfl⟩
  | fillStaged name file content time =>
      obtain ⟨dir, -, h⟩ := Option.bind_eq_some_iff.mp h
      split at h <;> cases h
      exact ⟨rfl, rfl, rfl⟩
  | linkDatabase name time =>
      obtain ⟨dir, -, h⟩ := Option.bind_eq_some_iff.mp h
      obtain ⟨content, -, h⟩ := Option.bind_eq_some_iff.mp h
      split at h <;> cases h
      exact ⟨rfl, rfl, rfl⟩
  | unlinkStaged name file time =>
      obtain ⟨dir, -, h⟩ := Option.bind_eq_some_iff.mp h
      split at h <;> cases h
      exact ⟨rfl, rfl, rfl⟩
  | rmdirStaging name =>
      obtain ⟨dir, -, h⟩ := Option.bind_eq_some_iff.mp h
      split at h <;> cases h
      exact ⟨rfl, rfl, rfl⟩
  | _ => cases hop

theorem frame_commit {op : FileOp Bytes} (hop : op.onStaging = true)
    (d : RecoveryDirectory Bytes) : Frame d (op.commit d).2 := by
  unfold FileOp.commit
  cases h : op.apply d with
  | none => exact ⟨rfl, rfl, rfl⟩
  | some d' => exact frame_apply hop h

/-- The four files of a staging directory. -/
def filesOf (manifest database deployment temporary : Option Bytes) : PointFile → Option Bytes
  | .manifest => manifest
  | .database => database
  | .deployment => deployment
  | .restoreTemporary => temporary

section FilesOf

variable (m b p t x : Option Bytes)

@[simp] theorem update_manifest :
    Function.update (filesOf m b p t) .manifest x = filesOf x b p t := by
  funext file
  cases file <;> rfl

@[simp] theorem update_database :
    Function.update (filesOf m b p t) .database x = filesOf m x p t := by
  funext file
  cases file <;> rfl

@[simp] theorem update_deployment :
    Function.update (filesOf m b p t) .deployment x = filesOf m b x t := by
  funext file
  cases file <;> rfl

@[simp] theorem update_restoreTemporary :
    Function.update (filesOf m b p t) .restoreTemporary x = filesOf m b p x := by
  funext file
  cases file <;> rfl

end FilesOf

/-- The staging directory of `name` holds `files`; the pointer and the
points are those of `d₀`. -/
structure Staged (name : PointName) (files : PointFile → Option Bytes)
    (d₀ d : RecoveryDirectory Bytes) : Prop where
  frame : Frame d₀ d
  dir : ∃ time, d.staging.lookup name = some ⟨time, files⟩

/-- A backup that may be published. -/
structure ValidBackup (backup : Backup Bytes Digest) : Prop where
  verifies : lib.verifyBackup backup.copy = some backup.schemaRevision
  unchanged : backup.unchanged = true
  size : bounded lib maxDatabaseBytes backup.copy = true
  revision : lib.revisionMatches backup.schemaRevision = true
  file : lib.backupNameMatches backup.file = true
  completed : isTimestamp backup.completedAt = true

section Staging

variable {lib} {fine : Prop} {call : Call Bytes Digest} {d₀ d : RecoveryDirectory Bytes}

theorem careful_outside {op : FileOp Bytes} (hop : op.retired = none) (hd : Sound lib d)
    (hhealth : (op.commit d).2.health = d.health) (hpoints : (op.commit d).2.points = d.points) :
    Careful lib op d :=
  ⟨fun name file h => (nomatch hop.symm.trans h), hd.congr hhealth hpoints⟩

theorem careful_staging {op : FileOp Bytes} (hop : op.onStaging = true) (hd : Sound lib d) :
    Careful lib op d := by
  have frame := frame_commit hop d
  refine careful_outside ?_ hd frame.health frame.points
  cases op <;> first | rfl | cases hop

theorem Frame.sound (h : Frame d₀ d) (hd : Sound lib d₀) : Sound lib d :=
  hd.congr h.health h.points

/-- A change of one file of the staging directory. -/
theorem performs_put (file : PointFile) (content : Option Bytes) (hd : Sound lib d₀)
    {name : PointName} {files : PointFile → Option Bytes} {op : Nat → FileOp Bytes}
    (hop : ∀ time, (op time).onStaging = true) (h : Staged name files d₀ d)
    (happly : ∀ time dir, d.staging.lookup name = some dir → dir.files = files →
      (op time).apply d =
        some { d with staging := d.staging.insert name (dir.put time file content) }) :
    Performs lib fine call (change op)
      (fun _ => Staged name (Function.update files file content) d₀) (Frame d₀) d := by
  obtain ⟨time₀, hdir⟩ := h.dir
  refine performs_change (fun time => careful_staging (hop time) (h.frame.sound hd)) ?_ h.frame ?_
  · intro time d' hd'
    refine ⟨h.frame.trans (frame_apply (hop time) hd'), time, ?_⟩
    rw [happly time _ hdir rfl] at hd'
    cases hd'
    exact AList.lookup_insert _
  · intro _ time
    rw [happly time _ hdir rfl]
    rfl

theorem performs_create (hd : Sound lib d₀) {name : PointName} {files : PointFile → Option Bytes}
    {file : PointFile} (torn : Bytes) (h : Staged name files d₀ d) (hfile : files file = none) :
    Performs lib fine call (change (.createStaged name file torn))
      (fun _ => Staged name (Function.update files file (some torn)) d₀) (Frame d₀) d := by
  refine performs_put file (some torn) hd (fun _ => rfl) h fun time dir hdir hfiles => ?_
  simp [FileOp.apply, hdir, hfiles, hfile]

theorem performs_fill (hd : Sound lib d₀) {name : PointName} {files : PointFile → Option Bytes}
    {file : PointFile} (content : Bytes) (h : Staged name files d₀ d)
    (hfile : (files file).isSome) :
    Performs lib fine call (change (.fillStaged name file content))
      (fun _ => Staged name (Function.update files file (some content)) d₀) (Frame d₀) d := by
  refine performs_put file (some content) hd (fun _ => rfl) h fun time dir hdir hfiles => ?_
  obtain ⟨raw, hraw⟩ := Option.isSome_iff_exists.mp hfile
  simp [FileOp.apply, hdir, hfiles, hraw]

/-- A discarded file of the staging directory, there or not. -/
theorem performs_discardStaged (hd : Sound lib d₀) (h : Frame d₀ d) (name : PointName)
    (file : PointFile) :
    Performs lib fine call (discard (.unlinkStaged name file)) (fun _ => Frame d₀) (Frame d₀) d :=
  performs_discard (fun time => careful_staging rfl (h.sound hd))
    (fun time => h.trans (frame_commit rfl d)) h

/-- `_write_private_file`. -/
theorem performs_write (hd : Sound lib d₀) {name : PointName} {files : PointFile → Option Bytes}
    {file : PointFile} (raw : Bytes) (h : Staged name files d₀ d) (hfile : files file = none) :
    Performs lib fine call (writePrivateFile name file raw)
      (fun _ => Staged name (Function.update files file (some raw)) d₀) (Frame d₀) d := by
  unfold writePrivateFile
  apply performs_bind
  intro torn _
  refine performs_then (performs_create hd torn h hfile) fun _ d₁ h₁ => ?_
  refine does_mono (performs_fill hd raw h₁ ?_) (fun _ d₂ h₂ => ?_) fun _ h => h
  · rw [Function.update_self]
    rfl
  · rwa [Function.update_idem] at h₂

/-- A file that is already gone. -/
theorem performs_discard_gone (hd : Sound lib d₀) {name : PointName}
    {files : PointFile → Option Bytes} {file : PointFile} (h : Staged name files d₀ d)
    (hfile : files file = none) :
    Performs lib fine call (discard (.unlinkStaged name file)) (fun _ => Staged name files d₀)
      (Frame d₀) d := by
  refine performs_discard (fun time => careful_staging rfl (h.frame.sound hd)) (fun time => ?_)
    h.frame
  obtain ⟨time₀, hdir⟩ := h.dir
  have same : ((FileOp.unlinkStaged name file time).commit d).2 = d := by
    simp [FileOp.commit, FileOp.apply, hdir, hfile]
  rw [same]
  exact h

/-- `restore_database_without_overwrite`. -/
theorem performs_restoreDatabase (hd : Sound lib d₀) {name : PointName}
    {m p : Option Bytes} (copy : Bytes) (h : Staged name (filesOf m none p none) d₀ d)
    (hfine : fine → (lib.verifyBackup copy).isSome) :
    Performs lib fine call (restoreDatabase lib name copy)
      (fun revision d' => Staged name (filesOf m (some copy) p none) d₀ d' ∧
        lib.verifyBackup copy = some revision) (Frame d₀) d := by
  unfold restoreDatabase
  -- the destination is not there
  have absent : (((d.staging.lookup name).bind fun dir => dir.files .database).isNone) = true := by
    obtain ⟨time, hdir⟩ := h.dir
    rw [hdir]
    rfl
  refine performs_then (performs_inspect (fun _ _ => h) h.frame fun _ =>
    ⟨(), check_eq_ok.mpr absent⟩) fun _ d₁ h₁ => ?_
  apply performs_bind
  intro torn _
  refine performs_then (performs_create hd torn h₁ rfl) fun _ d₂ h₂ => ?_
  rw [update_restoreTemporary] at h₂
  -- the copy, verified and linked
  refine performs_via (fun revision d' => Staged name (filesOf m (some copy) p (some copy)) d₀ d' ∧
    lib.verifyBackup copy = some revision) (performs_cleaning (Frame d₀) ?_ ?_) ?_
  · refine performs_then (performs_fill hd copy h₂ rfl) fun _ d₃ h₃ => ?_
    rw [update_restoreTemporary] at h₃
    obtain ⟨time₃, hdir₃⟩ := h₃.dir
    refine performs_via (fun revision d' => Staged name (filesOf m none p (some copy)) d₀ d' ∧
        lib.verifyBackup copy = some revision)
      (performs_inspect (fun revision hrevision => ⟨h₃, ?_⟩) h₃.frame fun hf => ?_)
      fun revision d₄ h₄ => performs_sync h₄.1.frame fun _ => ?_
    · rw [hdir₃] at hrevision
      exact present_eq_ok.mp hrevision
    · obtain ⟨revision, hrevision⟩ := Option.isSome_iff_exists.mp (hfine hf)
      refine ⟨revision, present_eq_ok.mpr ?_⟩
      rw [hdir₃]
      exact hrevision
    · refine performs_then (performs_put .database (some copy) hd (fun _ => rfl) h₄.1
        fun time dir hdir hfiles => ?_) fun _ d₅ h₅ => ?_
      · simp [FileOp.apply, hdir, hfiles, filesOf]
      · rw [update_database] at h₅
        exact does_pure ⟨h₅, h₄.2⟩
  · exact fun d' _ h' => performs_discardStaged hd h' name .restoreTemporary
  · -- the temporary name goes
    rintro revision d₃ ⟨h₃, hrevision⟩
    refine performs_via (fun _ => Staged name (filesOf m (some copy) p none) d₀)
      (performs_cleaning (Frame d₀) ?_ ?_) fun _ d₄ h₄ => ?_
    · refine performs_then (performs_put .restoreTemporary none hd (fun _ => rfl) h₃
        fun time dir hdir hfiles => ?_) fun _ d₄ h₄ => performs_sync h₄.frame fun _ => ?_
      · simp [FileOp.apply, hdir, hfiles, filesOf]
      · rw [update_restoreTemporary] at h₄
        exact does_pure h₄
    · intro d' _ h'
      refine performs_then (performs_discardStaged hd h' name .restoreTemporary) fun _ d'' h'' => ?_
      exact performs_discardStaged hd h'' name .database
    · refine performs_then (performs_discard_gone hd h₄ rfl) fun _ d₅ h₅ => ?_
      exact does_pure ⟨h₅, hrevision⟩

/-- `_remove_staging_directory`. -/
theorem performs_removeStaging (hfine : ¬fine) (hd : Sound lib d₀) (h : Frame d₀ d)
    (name : PointName) :
    Performs lib fine call (removeStagingDirectory name) (fun _ => Frame d₀) (Frame d₀) d := by
  refine does_swallow (Frame d₀) ?_ fun _ h => h
  refine performs_then (performs_inspect (fun _ _ => h) h fun _ => ⟨_, rfl⟩) fun there d₁ h₁ => ?_
  cases there with
  | false => exact does_pure h₁
  | true =>
      refine performs_then (performs_discardStaged hd h₁ name .manifest) fun _ d₂ h₂ => ?_
      refine performs_then (performs_discardStaged hd h₂ name .database) fun _ d₃ h₃ => ?_
      refine performs_then (performs_discardStaged hd h₃ name .deployment) fun _ d₄ h₄ => ?_
      refine performs_change (fun _ => careful_staging rfl (h₄.sound hd)) (fun _ d₅ h₅ => ?_) h₄
        fun hf => absurd hf hfine
      exact h₄.trans (frame_apply rfl h₅)

theorem performs_reject {α : Type} {text : String} {ok : α → RecoveryDirectory Bytes → Prop}
    (hfine : ¬fine) (hd : Sound lib d₀) (h : Frame d₀ d) (name : PointName) :
    Performs lib fine call (rejectRestored name text) ok (Frame d₀) d :=
  performs_then (performs_discardStaged hd h name .database) fun _ _ h₁ => does_throw hfine h₁

/-- `restore_from_heartbeat`. -/
theorem performs_restoreFromHeartbeat (hd : Sound lib d₀) {name : PointName}
    {m p : Option Bytes} (h : Staged name (filesOf m none p none) d₀ d)
    (hfine : fine → ∃ backup, call.heartbeat = .ok backup ∧ ValidBackup lib backup) :
    Performs lib fine call (restoreFromHeartbeat lib call.heartbeat name)
      (fun backup d' => Staged name (filesOf m (some backup.copy) p none) d₀ d' ∧
        call.heartbeat = .ok backup ∧ lib.verifyBackup backup.copy = some backup.schemaRevision)
      (Frame d₀) d := by
  unfold restoreFromHeartbeat
  refine performs_via (fun backup d' => Staged name (filesOf m none p none) d₀ d' ∧
      call.heartbeat = .ok backup)
    (performs_inspect (fun backup hbackup => ⟨h, ?_⟩) h.frame fun hf => ?_) fun backup d₁ h₁ => ?_
  · cases hheartbeat : call.heartbeat with
    | error text => rw [hheartbeat] at hbackup; cases hbackup
    | ok found => rw [hheartbeat] at hbackup; cases hbackup; rfl
  · obtain ⟨backup, hbackup, -⟩ := hfine hf
    exact ⟨backup, by rw [hbackup]; rfl⟩
  · -- of the call's backup, whatever is promised of a valid one
    have valid : fine → ValidBackup lib backup := fun hf => by
      obtain ⟨backup', hbackup', valid⟩ := hfine hf
      rw [h₁.2] at hbackup'
      cases hbackup'
      exact valid
    refine performs_then (performs_restoreDatabase hd backup.copy h₁.1 fun hf => ?_)
      fun revision d₂ h₂ => ?_
    · rw [(valid hf).verifies]
      rfl
    · split
      · next hne =>
          have hf : ¬fine := fun hf => hne
            (Option.some.inj (h₂.2.symm.trans (valid hf).verifies))
          exact performs_reject hf hd h₂.1.frame name
      · next heq =>
          have heq := Decidable.not_not.mp heq
          subst heq
          split
          · next hchanged =>
              have hf : ¬fine := fun hf => by
                rw [(valid hf).unchanged] at hchanged
                cases hchanged
              exact performs_reject hf hd h₂.1.frame name
          · exact does_pure ⟨h₂.1, h₁.2, h₂.2⟩

end Staging

/-! ## Publishing -/

/-- A point that was just put in its place under `name`. -/
structure Published (name : PointName) (payload : PointManifest Digest)
    (d : RecoveryDirectory Bytes) : Prop where
  sound : Sound lib d
  dir : ∃ dir point, d.points.lookup name = some dir ∧
    verifyRecoveryPoint lib name dir = .ok point ∧
      dir.files .manifest = some (lib.dumpManifest payload) ∧ point.tag = payload.release.tag ∧
        point.sourceCommit = payload.release.sourceCommit ∧
          point.manifestSha256 = payload.manifestSha256 ∧ point.createdAt = payload.createdAt
  valid : validatePointManifest lib payload = true
  named : nameMatches lib name = true
  fits : name.tag.length + 60 ≤ nameMax ∧ payload.release.tag.length + 60 ≤ nameMax

section Publishing

variable {lib} {fine : Prop} {call : Call Bytes Digest} {d₀ d : RecoveryDirectory Bytes}

theorem regularFile_eq_ok {raw : Option Bytes} {maximumBytes : Nat} {label : String}
    {content : Bytes} : regularFile lib raw maximumBytes label = .ok content ↔
      raw = some content ∧ bounded lib maximumBytes content = true := by
  unfold regularFile
  constructor
  · intro h
    obtain ⟨content', hraw, h⟩ := bind_eq_ok.mp h
    obtain ⟨_, hbounded, h⟩ := bind_eq_ok.mp h
    cases h
    exact ⟨present_eq_ok.mp hraw, check_eq_ok.mp hbounded⟩
  · rintro ⟨hraw, hbounded⟩
    exact bind_eq_ok.mpr ⟨content, present_eq_ok.mpr hraw,
      bind_eq_ok.mpr ⟨(), check_eq_ok.mpr hbounded, rfl⟩⟩

/-- The point that staging prepares verifies. -/
theorem verify_staged (lawful : lib.Lawful) (name : PointName) {completed : Int}
    {release : Release} {raw : Bytes} {backup : Backup Bytes Digest} (time : Nat)
    (hraw : bounded lib maxJsonBytes raw = true)
    (hrelease : lib.validateReleaseManifest raw = some release)
    (hbackup : lib.verifyBackup backup.copy = some backup.schemaRevision)
    (hsize : bounded lib maxDatabaseBytes backup.copy = true)
    (hfits : release.tag.length ≤ nameMax)
    (hvalid : validatePointManifest lib (manifestOf lib completed release raw backup backup.copy) =
      true) :
    verifyRecoveryPoint lib name ⟨time, filesOf
      (some (lib.dumpManifest (manifestOf lib completed release raw backup backup.copy)))
        (some backup.copy) (some raw) none⟩ = .ok {
      directory := name
      tag := release.tag
      sourceCommit := release.sourceCommit
      manifestSha256 := lib.sha256 raw
      databaseSha256 := lib.sha256 backup.copy
      databaseSizeBytes := lib.size backup.copy
      schemaRevision := backup.schemaRevision
      createdAt := completed
      sourceBackupCompletedAt := backup.completedAt } := by
  obtain ⟨hsmall, hload⟩ := lawful.manifest _ hfits hvalid
  have hentries : pointEntries lib ⟨time, filesOf
      (some (lib.dumpManifest (manifestOf lib completed release raw backup backup.copy)))
        (some backup.copy) (some raw) none⟩ =
      .ok (lib.dumpManifest (manifestOf lib completed release raw backup backup.copy), raw,
        backup.copy) := by
    unfold pointEntries
    refine bind_eq_ok.mpr ⟨(), check_eq_ok.mpr rfl, ?_⟩
    refine bind_eq_ok.mpr ⟨_, regularFile_eq_ok.mpr ⟨rfl, hsmall⟩, ?_⟩
    refine bind_eq_ok.mpr ⟨_, regularFile_eq_ok.mpr ⟨rfl, hraw⟩, ?_⟩
    exact bind_eq_ok.mpr ⟨_, regularFile_eq_ok.mpr ⟨rfl, hsize⟩, rfl⟩
  have hdecode : decodePointManifest lib
      (lib.dumpManifest (manifestOf lib completed release raw backup backup.copy)) =
      some (manifestOf lib completed release raw backup backup.copy) := by
    unfold decodePointManifest
    rw [hload]
    exact Option.filter_some_pos hvalid
  unfold verifyRecoveryPoint
  refine bind_eq_ok.mpr ⟨_, hentries, ?_⟩
  refine bind_eq_ok.mpr ⟨_, present_eq_ok.mpr hdecode, ?_⟩
  refine bind_eq_ok.mpr ⟨_, present_eq_ok.mpr hrelease, ?_⟩
  refine bind_eq_ok.mpr ⟨(), check_eq_ok.mpr ⟨rfl, rfl, rfl, rfl⟩, ?_⟩
  refine bind_eq_ok.mpr ⟨(), check_eq_ok.mpr rfl, ?_⟩
  refine bind_eq_ok.mpr ⟨(), check_eq_ok.mpr rfl, ?_⟩
  refine bind_eq_ok.mpr ⟨_, present_eq_ok.mpr hbackup, ?_⟩
  exact bind_eq_ok.mpr ⟨(), check_eq_ok.mpr rfl, rfl⟩

/-- The staging directory takes the place of the point; nothing is there, or
an empty directory that the pointer cannot name. -/
theorem sound_rename (hd : Sound lib d₀) {name : PointName} {dir : PointDirectory Bytes}
    (hdir : d₀.staging.lookup name = some dir) (hverifies : Verifies lib name dir)
    (h : (FileOp.renameStaging name).apply d₀ = some d) :
    Sound lib d ∧ d.health = d₀.health ∧ d.points.lookup name = some dir := by
  obtain ⟨dir', hdir', h⟩ := Option.bind_eq_some_iff.mp h
  rw [hdir] at hdir'
  cases hdir'
  split at h
  · next hempty =>
      cases h
      refine ⟨?_, rfl, AList.lookup_insert _⟩
      refine hd.update rfl (fun hname => ?_) (fun other hother => AList.lookup_insert_ne hother) ?_
      · obtain ⟨dir', hlookup, hcomplete⟩ := hd.pointed hname
        rw [hlookup] at hempty
        have hempty : dir'.isEmpty = true := hempty
        rw [complete_not_empty hcomplete] at hempty
        cases hempty
      · intro dir' hlookup _
        have hlookup : AList.lookup name (d₀.points.insert name dir) = some dir' := hlookup
        rw [AList.lookup_insert] at hlookup
        cases hlookup
        exact hverifies
  · cases h

theorem careful_rename (hd : Sound lib d₀) {name : PointName} {dir : PointDirectory Bytes}
    (hdir : d₀.staging.lookup name = some dir) (hverifies : Verifies lib name dir) :
    Careful lib (.renameStaging name) d₀ := by
  refine ⟨fun _ _ h => (nomatch h), ?_⟩
  show Sound lib (((FileOp.renameStaging name).apply d₀).getD d₀)
  cases h : (FileOp.renameStaging name).apply d₀ with
  | none => exact hd
  | some d => exact (sound_rename hd hdir hverifies h).1

theorem performs_sound {α : Type} {body : Job Bytes α} {ok : α → RecoveryDirectory Bytes → Prop}
    (hd : Sound lib d₀) (h : Performs lib fine call body ok (Frame d₀) d) :
    Performs lib fine call body ok (Sound lib) d :=
  does_mono h (fun _ _ h => h) fun _ h => h.sound hd

theorem validatePointManifest_iff {payload : PointManifest Digest} :
    validatePointManifest lib payload = true ↔ isTimestamp payload.createdAt = true ∧
      isTimestamp payload.database.sourceBackupCompletedAt = true ∧
        releaseMatches lib payload.release = true ∧ 1 ≤ payload.database.sizeBytes ∧
          payload.database.sizeBytes ≤ maxDatabaseBytes ∧
            lib.revisionMatches payload.database.schemaRevision = true ∧
              lib.backupNameMatches payload.database.sourceBackupFile = true := by
  simp only [validatePointManifest, Bool.and_eq_true, decide_eq_true_eq, and_assoc]

/-- The manifest that is written for a valid backup is valid. -/
theorem manifestOf_valid (lawful : lib.Lawful) {completed : Int} {release : Release} {raw : Bytes}
    {backup : Backup Bytes Digest} (hbackup : ValidBackup lib backup)
    (hcompleted : isTimestamp completed = true)
    (hrelease : lib.validateReleaseManifest raw = some release) :
    validatePointManifest lib (manifestOf lib completed release raw backup backup.copy) = true := by
  obtain ⟨hpositive, hmaximum⟩ := Bool.and_eq_true_iff.mp hbackup.size
  exact validatePointManifest_iff.mpr ⟨hcompleted, hbackup.completed,
    lawful.release raw release hrelease, of_decide_eq_true hpositive, of_decide_eq_true hmaximum,
    hbackup.revision, hbackup.file⟩

/-- From `os.mkdir` to the point's place. -/
theorem performs_stagePoint (lawful : lib.Lawful) (hd : Sound lib d₀) {name : PointName}
    {release : Release} {raw : Bytes} (hname : nameMatches lib name = true)
    (htag : name.tag = release.tag) (hraw : bounded lib maxJsonBytes raw = true)
    (hrelease : lib.validateReleaseManifest raw = some release)
    (hfine : fine → (∃ backup, call.heartbeat = .ok backup ∧ ValidBackup lib backup) ∧
      name ∉ d₀.staging ∧ name ∉ d₀.points ∧ name.tag.length + 60 ≤ nameMax) :
    Performs lib fine call (stagePoint lib call name name.stamp release raw)
      (fun payload d => Published lib name payload d ∧
        (∀ other, other ≠ name → d.points.lookup other = d₀.points.lookup other) ∧
          ∀ dir, d₀.points.lookup name = some dir → dir.isEmpty = true) (Sound lib) d₀ := by
  have hstamp : isTimestamp name.stamp = true := by
    unfold nameMatches at hname
    rw [Bool.and_eq_true, Bool.and_eq_true] at hname
    exact hname.1.2
  unfold stagePoint
  -- the directory
  refine performs_via (fun _ d => Staged name (filesOf none none none none) d₀ d ∧
    name.tag.length + 60 ≤ nameMax)
    (performs_change (fun _ => careful_staging rfl hd) (fun time d h => ?_) hd fun hf time => ?_)
    fun _ d₁ h₁ => ?_
  · have frame := frame_apply rfl h
    simp only [FileOp.apply] at h
    split at h
    · cases h
    · next hnot =>
        cases h
        refine ⟨⟨frame, time, ?_⟩, ?_⟩
        · rw [AList.lookup_insert]
          congr 1
          unfold PointDirectory.empty
          congr 1
          funext file
          cases file <;> rfl
        · have := (not_or.mp hnot).2
          unfold PointName.stagingLength at this
          omega
  · obtain ⟨-, hstaging, -, hlength⟩ := hfine hf
    have hfits : ¬nameMax < name.stagingLength := by
      unfold PointName.stagingLength
      omega
    simp only [FileOp.apply, if_neg (not_or.mpr ⟨hstaging, hfits⟩), Option.isSome_some]
  -- the deployment manifest and the database
  obtain ⟨h₁, hlength⟩ := h₁
  refine performs_then (performs_sound hd (performs_write hd raw h₁ rfl)) fun _ d₂ h₂ => ?_
  rw [update_deployment] at h₂
  refine performs_then (performs_sound hd (performs_restoreFromHeartbeat hd h₂ fun hf =>
    (hfine hf).1)) fun backup d₃ h₃ => ?_
  obtain ⟨h₃, hbackup, hverified⟩ := h₃
  have hsound₃ := h₃.frame.sound hd
  have valid : fine → ValidBackup lib backup := fun hf => by
    obtain ⟨⟨backup', hbackup', valid⟩, -⟩ := hfine hf
    rw [hbackup] at hbackup'
    cases hbackup'
    exact valid
  apply performs_bind
  intro now hnow
  refine performs_then (performs_checked (fun _ _ => h₃) hsound₃ fun hf => hnow hf backup hbackup)
    fun _ d₄ h₄ => ?_
  obtain ⟨time₄, hdir₄⟩ := h₄.dir
  have hread : present ((d₄.staging.lookup name).bind fun dir => dir.files .database)
      Raised.osError = .ok backup.copy := by
    rw [hdir₄]
    rfl
  refine performs_via (fun database d => Staged name (filesOf none (some backup.copy) (some raw)
      none) d₀ d ∧ database = backup.copy)
    (performs_inspect (fun database hdatabase => ⟨h₄, ?_⟩) (h₄.frame.sound hd) fun _ => ⟨_, hread⟩)
    fun database d₅ h₅ => ?_
  · rw [hread] at hdatabase
    cases hdatabase
    rfl
  obtain ⟨h₅, rfl⟩ := h₅
  refine performs_via (fun _ d => Staged name (filesOf none (some backup.copy) (some raw) none)
      d₀ d ∧ bounded lib maxDatabaseBytes backup.copy = true)
    (performs_checked (fun _ hsize => ⟨h₅, check_eq_ok.mp hsize⟩) (h₅.frame.sound hd) fun hf =>
      ⟨(), check_eq_ok.mpr (valid hf).size⟩) fun _ d₆ h₆ => ?_
  obtain ⟨h₆, hsize⟩ := h₆
  -- the manifest
  refine performs_via (fun _ d => Staged name (filesOf none (some backup.copy) (some raw) none)
      d₀ d ∧ validatePointManifest lib
        (manifestOf lib name.stamp release raw backup backup.copy) = true)
    (performs_checked (fun _ hmanifest => ⟨h₆, check_eq_ok.mp hmanifest⟩) (h₆.frame.sound hd)
      fun hf => ⟨(), check_eq_ok.mpr (manifestOf_valid lawful (valid hf) hstamp hrelease)⟩)
    fun _ d₇ h₇ => ?_
  obtain ⟨h₇, hmanifest⟩ := h₇
  refine performs_then (performs_sound hd (performs_write hd _ h₇ rfl)) fun _ d₈ h₈ => ?_
  rw [update_manifest] at h₈
  have hsound₈ := h₈.frame.sound hd
  obtain ⟨time₈, hdir₈⟩ := h₈.dir
  have htagLength : release.tag.length + 60 ≤ nameMax := htag ▸ hlength
  have hpoint := verify_staged lawful name time₈ hraw hrelease hverified hsize
    (Nat.le_of_add_right_le htagLength) hmanifest
  have hverifies : Verifies lib name ⟨time₈, filesOf _ _ _ _⟩ := ⟨_, hpoint, htagLength⟩
  -- its place
  refine performs_sync hsound₈ fun _ => ?_
  refine performs_via (fun _ d => Published lib name
      (manifestOf lib name.stamp release raw backup backup.copy) d ∧
        (∀ other, other ≠ name → d.points.lookup other = d₀.points.lookup other) ∧
          ∀ dir, d₀.points.lookup name = some dir → dir.isEmpty = true)
    (performs_change (fun _ => careful_rename hsound₈ hdir₈ hverifies) (fun _ d₉ h₉ => ?_) hsound₈
      fun hf _ => ?_) fun _ d₉ h₉ => performs_sync h₉.1.sound fun _ => does_pure h₉
  · obtain ⟨hsound₉, -, hplaced⟩ := sound_rename hsound₈ hdir₈ hverifies h₉
    refine ⟨⟨hsound₉, ⟨_, _, hplaced, hpoint, rfl, rfl, rfl, rfl, rfl⟩, hmanifest, hname,
      hlength, htagLength⟩, ?_⟩
    rw [← h₈.frame.points]
    obtain ⟨dir, -, h₉⟩ := Option.bind_eq_some_iff.mp h₉
    split at h₉
    · next hempty =>
        cases h₉
        refine ⟨fun other hother => AList.lookup_insert_ne hother, fun dir' hdir' => ?_⟩
        rw [hdir'] at hempty
        exact hempty
    · cases h₉
  · have hnew : d₈.points.lookup name = none := by
      rw [h₈.frame.points]
      exact AList.lookup_eq_none.mpr (hfine hf).2.2.1
    simp [FileOp.apply, hdir₈, hnew]

end Publishing

end TonTracker.RecoveryPoint
