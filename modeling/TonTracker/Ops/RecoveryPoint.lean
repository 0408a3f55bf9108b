/-
# `Ops.RecoveryPoint` — publishing external recovery points

`create_recovery_point` (`ops/recovery_point.py`) with the part of
`ops/restore_sqlite.py` it calls.  The directory is what its durable steps
make of it, the names in it sorted by their shape; each step may fail, and
the time at which it is made is the environment's answer.  A file is its
bytes; JSON, SHA-256, SQLite and the text patterns are a library.  Both
sides of a link are one file, so what a link count would tell is told by
the temporary file of the restore.  Modes and owners are as this code sets
them.
-/
import Mathlib.Data.List.AList
import Mathlib.Data.List.Sort
import TonTracker.Lib.CrashRuns
import TonTracker.Lib.ExceptFold

namespace TonTracker.RecoveryPoint

open Session (Machine Prog)
open ExceptFold (check present)

/-! ## Documents -/

/-- `_MAX_JSON_BYTES`. -/
def maxJsonBytes : Nat := 65536

/-- `_MAX_DATABASE_BYTES`. -/
def maxDatabaseBytes : Nat := 1024 * 1024 * 1024 * 1024

/-- The longest name of a directory entry. -/
def nameMax : Nat := 255

/-- A `datetime`, in microseconds: from year 1 to year 9999. -/
def isTimestamp (time : Int) : Bool :=
  decide (-62135596800000000 ≤ time) && decide (time < 253402300800000000)

/-- `1000-01-01T00:00:00Z`: `strftime` writes an earlier year with fewer
than four digits. -/
def yearThousand : Int := -30610224000000000

/-- The parts of `recovery-point-{tag}-{stamp}-{token}`. -/
structure PointName where
  tag : String
  stamp : Int
  token : Nat
deriving DecidableEq

/-- The length of `.recovery-point-{tag}-{stamp}-{token}.tmp`. -/
def PointName.stagingLength (name : PointName) : Nat :=
  16 + name.tag.length + 1 + 22 + 1 + 16 + 4

structure Release where
  tag : String
  sourceCommit : String
deriving DecidableEq

/-- The `database` part of a manifest. -/
structure PointDatabase (Digest : Type) where
  sizeBytes : Nat
  sha256 : Digest
  schemaRevision : String
  sourceBackupFile : String
  sourceBackupCompletedAt : Int
  sourceBackupSha256 : Digest

/-- `recovery-point.json`. -/
structure PointManifest (Digest : Type) where
  createdAt : Int
  release : Release
  manifestSha256 : Digest
  deploymentSha256 : Digest
  database : PointDatabase Digest

/-- `.recovery-point-health.json`. -/
structure Health (Digest : Type) where
  createdAt : Int
  recoveryPoint : PointName
  recoveryManifestSha256 : Digest
  databaseSha256 : Digest
  release : Release
  manifestSha256 : Digest

/-- `VerifiedRecoveryPoint`; its paths are those of its directory. -/
structure VerifiedPoint (Digest : Type) where
  directory : PointName
  tag : String
  sourceCommit : String
  manifestSha256 : Digest
  databaseSha256 : Digest
  databaseSizeBytes : Nat
  schemaRevision : String
  createdAt : Int
  sourceBackupCompletedAt : Int

/-- Files and what is read from them.  `loadManifest` and `loadHealth` are
`json.loads` with the checks on keys, types, constants and digests; the
other patterns stand on their own. -/
structure RecoveryLibrary (Bytes Digest : Type) where
  size : Bytes → Nat
  sha256 : Bytes → Digest
  validateReleaseManifest : Bytes → Option Release
  dumpManifest : PointManifest Digest → Bytes
  loadManifest : Bytes → Option (PointManifest Digest)
  dumpHealth : Health Digest → Bytes
  loadHealth : Bytes → Option (Health Digest)
  tagMatches : String → Bool
  commitMatches : String → Bool
  revisionMatches : String → Bool
  backupNameMatches : String → Bool
  verifyBackup : Bytes → Option String

section Library

variable {Bytes Digest : Type} [DecidableEq Digest] (lib : RecoveryLibrary Bytes Digest)

/-- `_POINT_NAME.fullmatch`. -/
def nameMatches (name : PointName) : Bool :=
  lib.tagMatches name.tag && isTimestamp name.stamp && decide (yearThousand ≤ name.stamp)

def releaseMatches (release : Release) : Bool :=
  lib.tagMatches release.tag && lib.commitMatches release.sourceCommit

/-- The conditions of `_validate_point_manifest` that `loadManifest` leaves
open. -/
def validatePointManifest (payload : PointManifest Digest) : Bool :=
  isTimestamp payload.createdAt && isTimestamp payload.database.sourceBackupCompletedAt &&
    releaseMatches lib payload.release && decide (1 ≤ payload.database.sizeBytes) &&
    decide (payload.database.sizeBytes ≤ maxDatabaseBytes) &&
    lib.revisionMatches payload.database.schemaRevision &&
    lib.backupNameMatches payload.database.sourceBackupFile

/-- Those of `_validate_health`. -/
def validateHealth (payload : Health Digest) : Bool :=
  isTimestamp payload.createdAt && nameMatches lib payload.recoveryPoint &&
    releaseMatches lib payload.release

/-- `_regular_file_metadata`'s bound on a file. -/
def bounded (maximumBytes : Nat) (raw : Bytes) : Bool :=
  decide (1 ≤ lib.size raw) && decide (lib.size raw ≤ maximumBytes)

end Library

/-! ## The directory -/

inductive PointFile where
  | manifest
  | database
  | deployment
  | restoreTemporary
deriving DecidableEq

/-- A point, or the staging of one: when it last changed, and its files. -/
structure PointDirectory (Bytes : Type) where
  mtime : Nat
  files : PointFile → Option Bytes

namespace PointDirectory

variable {Bytes : Type}

def empty (time : Nat) : PointDirectory Bytes := ⟨time, fun _ => none⟩

def put (d : PointDirectory Bytes) (time : Nat) (file : PointFile) (content : Option Bytes) :
    PointDirectory Bytes :=
  ⟨time, Function.update d.files file content⟩

/-- The three entries of a point, and no other. -/
def complete (d : PointDirectory Bytes) : Bool :=
  (d.files .manifest).isSome && (d.files .database).isSome && (d.files .deployment).isSome &&
    (d.files .restoreTemporary).isNone

def isEmpty (d : PointDirectory Bytes) : Bool :=
  (d.files .manifest).isNone && (d.files .database).isNone && (d.files .deployment).isNone &&
    (d.files .restoreTemporary).isNone

end PointDirectory

abbrev Points (Bytes : Type) := AList fun _ : PointName => PointDirectory Bytes

/-- The destination directory: the lock, the health pointer, temporary
files of its replacement, staging directories, and points. -/
structure RecoveryDirectory (Bytes : Type) where
  lock : Bool
  health : Option Bytes
  temporaries : AList fun _ : Nat => Bytes
  staging : Points Bytes
  points : Points Bytes

/-- The directory as it is provisioned. -/
def RecoveryDirectory.fresh {Bytes : Type} : RecoveryDirectory Bytes := ⟨false, none, ∅, ∅, ∅⟩

/-- What `iterdir` lists. -/
inductive EntryName where
  | lock
  | health
  | temporary (token : Nat)
  | staging (name : PointName)
  | point (name : PointName)
deriving DecidableEq

def RecoveryDirectory.entries {Bytes : Type} (d : RecoveryDirectory Bytes) : List EntryName :=
  (if d.lock then [.lock] else []) ++ (if d.health.isSome then [.health] else []) ++
    d.temporaries.keys.map .temporary ++ d.staging.keys.map .staging ++ d.points.keys.map .point

/-! ## Durable steps -/

/-- A step that changes the directory.  A file that is created holds, until
it is filled, whatever had reached the disk. -/
inductive FileOp (Bytes : Type) where
  | createLock
  | mkdirStaging (name : PointName) (time : Nat)
  | createStaged (name : PointName) (file : PointFile) (torn : Bytes) (time : Nat)
  | fillStaged (name : PointName) (file : PointFile) (content : Bytes) (time : Nat)
  | linkDatabase (name : PointName) (time : Nat)
  | unlinkStaged (name : PointName) (file : PointFile) (time : Nat)
  | rmdirStaging (name : PointName)
  | renameStaging (name : PointName)
  | createTemporary (token : Nat) (torn : Bytes)
  | fillTemporary (token : Nat) (content : Bytes)
  | replaceHealth (token : Nat)
  | unlinkTemporary (token : Nat)
  | unlinkPoint (name : PointName) (file : PointFile) (time : Nat)
  | rmdirPoint (name : PointName)

namespace FileOp

variable {Bytes : Type} (d : RecoveryDirectory Bytes)

/-- The directory after a step, `none` where it is an `OSError`. -/
def apply : FileOp Bytes → Option (RecoveryDirectory Bytes)
  | createLock => some { d with lock := true }
  | mkdirStaging name time =>
      if name ∈ d.staging ∨ nameMax < name.stagingLength then none
      else some { d with staging := d.staging.insert name (.empty time) }
  | createStaged name file torn time =>
      (d.staging.lookup name).bind fun dir =>
        if (dir.files file).isSome then none
        else some { d with staging := d.staging.insert name (dir.put time file (some torn)) }
  | fillStaged name file content time =>
      (d.staging.lookup name).bind fun dir =>
        if (dir.files file).isNone then none
        else some { d with staging := d.staging.insert name (dir.put time file (some content)) }
  | linkDatabase name time =>
      (d.staging.lookup name).bind fun dir =>
        (dir.files .restoreTemporary).bind fun content =>
          if (dir.files .database).isSome then none
          else some { d with
            staging := d.staging.insert name (dir.put time .database (some content)) }
  | unlinkStaged name file time =>
      (d.staging.lookup name).bind fun dir =>
        if (dir.files file).isNone then none
        else some { d with staging := d.staging.insert name (dir.put time file none) }
  | rmdirStaging name =>
      (d.staging.lookup name).bind fun dir =>
        if dir.isEmpty then some { d with staging := d.staging.erase name } else none
  | renameStaging name =>
      (d.staging.lookup name).bind fun dir =>
        -- a directory replaces one that is empty
        if ((d.points.lookup name).all PointDirectory.isEmpty) then
          some { d with staging := d.staging.erase name, points := d.points.insert name dir }
        else none
  | createTemporary token torn =>
      if token ∈ d.temporaries then none
      else some { d with temporaries := d.temporaries.insert token torn }
  | fillTemporary token content =>
      if token ∈ d.temporaries then
        some { d with temporaries := d.temporaries.insert token content }
      else none
  | replaceHealth token =>
      (d.temporaries.lookup token).bind fun content =>
        some { d with health := some content, temporaries := d.temporaries.erase token }
  | unlinkTemporary token =>
      if token ∈ d.temporaries then some { d with temporaries := d.temporaries.erase token }
      else none
  | unlinkPoint name file time =>
      (d.points.lookup name).bind fun dir =>
        if (dir.files file).isNone then none
        else some { d with points := d.points.insert name (dir.put time file none) }
  | rmdirPoint name =>
      (d.points.lookup name).bind fun dir =>
        if dir.isEmpty then some { d with points := d.points.erase name } else none

def commit (op : FileOp Bytes) : Bool × RecoveryDirectory Bytes :=
  ((op.apply d).isSome, (op.apply d).getD d)

end FileOp

/-! ## The environment -/

inductive RecoveryQuery where
  /-- Whether the next step on files is made, and when. -/
  | io
  /-- What a file holds that was created and not yet filled. -/
  | torn
  | utcnow
  | time
  | token
  | listing
deriving DecidableEq

def RecoveryQuery.Answer (Bytes : Type) : RecoveryQuery → Type
  | io => Option Nat
  | torn => Bytes
  | utcnow => Int
  | time => Int
  | token => Nat
  | listing => List EntryName

def machine (Bytes : Type) : Machine where
  State := RecoveryDirectory Bytes
  Query := RecoveryQuery
  Answer := RecoveryQuery.Answer Bytes
  Write := FileOp Bytes
  Result := fun _ => Bool
  commit := fun op d => op.commit d

inductive Raised where
  | recoveryPoint (text : String)
  | osError
  | runtimeError (text : String)
deriving DecidableEq

abbrev Job (Bytes : Type) : Type → Type := ExceptT Raised (Prog (machine Bytes))

section Steps

variable {Bytes : Type}

def ask (q : RecoveryQuery) : Job Bytes (q.Answer Bytes) :=
  ExceptT.lift (.ask (M := machine Bytes) q .done)

def liftChecked {α : Type} (checked : Except Raised α) : Job Bytes α := ExceptT.mk (.done checked)

/-- An `OSError` where there is no time. -/
def timeOf (time : Option Nat) : Except Raised Nat := present time .osError

/-- A step on files that changes nothing, such as `fsync`: when it is
made. -/
def perform : Job Bytes Nat := do
  let time ← ask .io
  liftChecked (timeOf time)

/-- Reading files, and what is checked of what was read. -/
def inspect {α : Type} (checked : RecoveryDirectory Bytes → Except Raised α) : Job Bytes α := do
  let _ ← perform
  let d ← ExceptT.lift (.read (M := machine Bytes) .done)
  liftChecked (checked d)

/-- Whether a step could be made at all. -/
def made (done : Bool) : Except Raised Unit := check (done = true) .osError

/-- A step that changes the directory. -/
def change (op : Nat → FileOp Bytes) : Job Bytes Unit := do
  let time ← perform
  let done ← ExceptT.lift (.write (M := machine Bytes) (op time) .done)
  liftChecked (made done)

/-- `try: … finally: …` around a step that raised; what the clean-up itself
raises is swallowed or replaces the exception. -/
def cleaning {α : Type} (body : Job Bytes α) (cleanup : Job Bytes Unit) : Job Bytes α :=
  tryCatch body fun raised => do
    cleanup
    throw raised

/-- `except OSError: pass`. -/
def swallowing (body : Job Bytes Unit) : Job Bytes Unit := tryCatch body fun _ => pure ()

end Steps

/-! ## Verification -/

section Verification

variable {Bytes Digest : Type} [DecidableEq Digest] (lib : RecoveryLibrary Bytes Digest)

/-- `_regular_file_metadata` of a file of a point. -/
def regularFile (raw : Option Bytes) (maximumBytes : Nat) (label : String) :
    Except Raised Bytes := do
  let raw ← present raw (.recoveryPoint "Recovery point entries are invalid.")
  check (bounded lib maximumBytes raw = true)
    (.recoveryPoint (label ++ " must be a bounded regular file."))
  return raw

/-- `_point_entries`, with what is in the three files. -/
def pointEntries (dir : PointDirectory Bytes) : Except Raised (Bytes × Bytes × Bytes) := do
  check (dir.complete = true)
    (.recoveryPoint "Recovery point entries are invalid.")
  let manifest ← regularFile lib (dir.files .manifest) maxJsonBytes "Recovery point manifest"
  let deployment ←
    regularFile lib (dir.files .deployment) maxJsonBytes "Embedded deployment manifest"
  let database ← regularFile lib (dir.files .database) maxDatabaseBytes "Recovery point database"
  return (manifest, deployment, database)

/-- `_decode_point_manifest`. -/
def decodePointManifest (raw : Bytes) : Option (PointManifest Digest) :=
  (lib.loadManifest raw).filter fun payload => validatePointManifest lib payload

/-- The comparison of a manifest with the deployment manifest beside it. -/
def releaseBinding (payload : PointManifest Digest) (deployment : Release)
    (deploymentSha256 : Digest) : Prop :=
  deployment.tag = payload.release.tag ∧
    deployment.sourceCommit = payload.release.sourceCommit ∧
      deploymentSha256 = payload.manifestSha256 ∧ deploymentSha256 = payload.deploymentSha256

instance (payload : PointManifest Digest) (deployment : Release) (deploymentSha256 : Digest) :
    Decidable (releaseBinding payload deployment deploymentSha256) :=
  inferInstanceAs (Decidable (_ ∧ _ ∧ _ ∧ _))

/-- `verify_recovery_point`. -/
def verifyRecoveryPoint (name : PointName) (dir : PointDirectory Bytes) :
    Except Raised (VerifiedPoint Digest) := do
  let (rawManifest, rawDeployment, database) ← pointEntries lib dir
  let payload ← present (decodePointManifest lib rawManifest)
    (.recoveryPoint "Recovery point manifest fields are invalid.")
  let deployment ← present (lib.validateReleaseManifest rawDeployment)
    (.recoveryPoint "Deployment manifest contract is invalid.")
  check (releaseBinding payload deployment (lib.sha256 rawDeployment))
    (.recoveryPoint "Recovery point release binding is invalid.")
  check (lib.size database = payload.database.sizeBytes)
    (.recoveryPoint "Recovery point database size does not match.")
  check (lib.sha256 database = payload.database.sha256)
    (.recoveryPoint "Recovery point database digest does not match.")
  let revision ← present (lib.verifyBackup database)
    (.recoveryPoint "Recovery point database is invalid.")
  check (revision = payload.database.schemaRevision)
    (.recoveryPoint "Recovery point database revision does not match.")
  return {
    directory := name
    tag := payload.release.tag
    sourceCommit := payload.release.sourceCommit
    manifestSha256 := payload.manifestSha256
    databaseSha256 := lib.sha256 database
    databaseSizeBytes := lib.size database
    schemaRevision := revision
    createdAt := payload.createdAt
    sourceBackupCompletedAt := payload.database.sourceBackupCompletedAt }

/-- The point of a name; a missing directory is unavailable. -/
def verifyNamedPoint (d : RecoveryDirectory Bytes) (name : PointName) :
    Except Raised (VerifiedPoint Digest) := do
  let dir ← present (d.points.lookup name)
    (.recoveryPoint "Recovery point directory is unavailable.")
  verifyRecoveryPoint lib name dir

/-- `sha256_file` of a point's file. -/
def fileDigest (d : RecoveryDirectory Bytes) (name : PointName) (file : PointFile) :
    Except Raised Digest := do
  let raw ← present ((d.points.lookup name).bind fun dir => dir.files file) .osError
  return lib.sha256 raw

/-- The comparison of the pointer with the point it names. -/
def healthBinding (health : Health Digest) (point : VerifiedPoint Digest)
    (recoveryManifestSha256 : Digest) : Prop :=
  point.tag = health.release.tag ∧ point.sourceCommit = health.release.sourceCommit ∧
    point.manifestSha256 = health.manifestSha256 ∧
      point.databaseSha256 = health.databaseSha256 ∧
        recoveryManifestSha256 = health.recoveryManifestSha256 ∧
          point.createdAt = health.createdAt

instance (health : Health Digest) (point : VerifiedPoint Digest) (digest : Digest) :
    Decidable (healthBinding health point digest) :=
  inferInstanceAs (Decidable (_ ∧ _ ∧ _ ∧ _ ∧ _ ∧ _))

/-- The health pointer, read. -/
def readHealth (d : RecoveryDirectory Bytes) : Except Raised (Health Digest) := do
  let raw ← present d.health (.recoveryPoint "Recovery point health is unavailable.")
  check (bounded lib maxJsonBytes raw = true)
    (.recoveryPoint "Recovery point health must be a bounded regular file.")
  present ((lib.loadHealth raw).filter fun payload => validateHealth lib payload)
    (.recoveryPoint "Recovery point health fields are invalid.")

/-- `verify_recovery_point_health`. -/
def verifyRecoveryPointHealth (d : RecoveryDirectory Bytes) :
    Except Raised (VerifiedPoint Digest) := do
  let health ← readHealth lib d
  let point ← verifyNamedPoint lib d health.recoveryPoint
  let digest ← fileDigest lib d health.recoveryPoint .manifest
  check (healthBinding health point digest)
    (.recoveryPoint "Recovery point health binding is invalid.")
  return point

/-! ## What a call looks at first -/

/-- `iterdir`: the entries, in whatever order they are listed. -/
def listed (listing : List EntryName) (d : RecoveryDirectory Bytes) : List EntryName :=
  if listing.Perm d.entries then listing else d.entries

/-- One entry of `_validate_root_entries`; carries whether the pointer was
seen. -/
def validateEntry (d : RecoveryDirectory Bytes) (hasHealth : Bool) :
    EntryName → Except Raised Bool
  | .lock => .ok hasHealth
  | .health => .ok true
  | .temporary _ | .staging _ =>
      .error (.recoveryPoint "Recovery point directory has an unknown entry.")
  | .point name => do
      let dir ← present (d.points.lookup name)
        (.recoveryPoint "Recovery point directory is unavailable.")
      let _ ← pointEntries lib dir
      return hasHealth

/-- `_validate_root_entries`. -/
def validateRootEntries (listing : List EntryName) (d : RecoveryDirectory Bytes) :
    Except Raised Unit := do
  let hasHealth ← (listed listing d).foldlM (validateEntry lib d) false
  if hasHealth then
    let _ ← verifyRecoveryPointHealth lib d
  return ()

/-- The points by the time they last changed, the latest first. -/
def newestFirst (listing : List EntryName) (d : RecoveryDirectory Bytes) : List PointName :=
  let mtime := fun name => ((d.points.lookup name).map PointDirectory.mtime).getD 0
  ((listed listing d).filterMap fun
    | .point name => some name
    | _ => none).insertionSort fun a b => mtime b ≤ mtime a

end Verification

/-! ## A call -/

/-- What the heartbeat selects: the record's fields, the bytes SQLite copies
from the backup, and whether the backup still has its digest after the
copy. -/
structure Backup (Bytes Digest : Type) where
  file : String
  completedAt : Int
  sha256 : Digest
  schemaRevision : String
  copy : Bytes
  unchanged : Bool

/-- A `datetime`, and whether it has a time zone. -/
structure CreatedAt where
  instant : Int
  aware : Bool

/-- The arguments of `create_recovery_point`: the heartbeat is what reading
it and checking its backup gives, the deployment manifest the bytes of its
file. -/
structure Call (Bytes Digest : Type) where
  heartbeat : Except String (Backup Bytes Digest)
  deploymentManifest : Option Bytes
  retention : Nat
  createdAt : Option CreatedAt
  maximumSourceAgeSeconds : Nat

section Create

variable {Bytes Digest : Type}

/-- `_write_private_file` of a staged file. -/
def writePrivateFile (name : PointName) (file : PointFile) (raw : Bytes) : Job Bytes Unit := do
  let torn ← ask .torn
  change (.createStaged name file torn)
  change (.fillStaged name file raw)

/-- `unlink(missing_ok=True)`. -/
def discard (op : Nat → FileOp Bytes) : Job Bytes Unit := do
  let time ← perform
  let _ ← ExceptT.lift (.write (M := machine Bytes) (op time) .done)
  return ()

variable (lib : RecoveryLibrary Bytes Digest)

/-- `restore_database_without_overwrite`, to the database of a staging
directory. -/
def restoreDatabase (name : PointName) (copy : Bytes) : Job Bytes String := do
  inspect fun d => check (((d.staging.lookup name).bind fun dir => dir.files .database).isNone = true)
    (.runtimeError "Recovery destination already exists.")
  let torn ← ask .torn
  change (.createStaged name .restoreTemporary torn)
  let revision ← cleaning (do
      change (.fillStaged name .restoreTemporary copy)
      let revision ← inspect fun d =>
        present (((d.staging.lookup name).bind fun dir => dir.files .restoreTemporary).bind
          lib.verifyBackup) (.runtimeError "SQLite backup integrity check failed.")
      let _ ← perform
      change (.linkDatabase name)
      return revision)
    (discard (.unlinkStaged name .restoreTemporary))
  cleaning (do
      change (.unlinkStaged name .restoreTemporary)
      let _ ← perform)
    (do
      discard (.unlinkStaged name .restoreTemporary)
      discard (.unlinkStaged name .database))
  discard (.unlinkStaged name .restoreTemporary)
  return revision

/-- A copy that is not kept. -/
def rejectRestored {α : Type} (name : PointName) (text : String) : Job Bytes α := do
  discard (.unlinkStaged name .database)
  throw (.runtimeError text)

/-- `restore_from_heartbeat`. -/
def restoreFromHeartbeat (heartbeat : Except String (Backup Bytes Digest)) (name : PointName) :
    Job Bytes (Backup Bytes Digest) := do
  let backup ← inspect fun _ => heartbeat.mapError .runtimeError
  let restoredRevision ← restoreDatabase lib name backup.copy
  if restoredRevision ≠ backup.schemaRevision then
    rejectRestored name "Restored database schema revision does not match."
  else if backup.unchanged = false then
    rejectRestored name "Backup changed during the recovery drill."
  else
    return backup

/-- `_create_manifest`'s payload. -/
def manifestOf (completed : Int) (release : Release) (rawDeployment : Bytes)
    (backup : Backup Bytes Digest) (database : Bytes) : PointManifest Digest where
  createdAt := completed
  release := release
  manifestSha256 := lib.sha256 rawDeployment
  deploymentSha256 := lib.sha256 rawDeployment
  database := {
    sizeBytes := lib.size database
    sha256 := lib.sha256 database
    schemaRevision := backup.schemaRevision
    sourceBackupFile := backup.file
    sourceBackupCompletedAt := backup.completedAt
    sourceBackupSha256 := backup.sha256 }

/-- The age of the source, in microseconds. -/
def checkSourceAge (maximumSourceAgeSeconds : Nat) (sourceCompleted now : Int) :
    Except Raised Unit := do
  check (-300000000 ≤ now - sourceCompleted) (.recoveryPoint
    "Recovery point source backup timestamp is unexpectedly in the future.")
  check (now - sourceCompleted ≤ maximumSourceAgeSeconds * 1000000)
    (.recoveryPoint "Recovery point source backup is stale.")

/-- From `os.mkdir` to the point's place being durable. -/
def stagePoint (call : Call Bytes Digest) (name : PointName) (completed : Int)
    (release : Release) (rawDeployment : Bytes) : Job Bytes (PointManifest Digest) := do
  change (.mkdirStaging name)
  writePrivateFile name .deployment rawDeployment
  let backup ← restoreFromHeartbeat lib call.heartbeat name
  let now ← ask .time
  liftChecked (checkSourceAge call.maximumSourceAgeSeconds backup.completedAt now)
  let database ← inspect fun d =>
    present ((d.staging.lookup name).bind fun dir => dir.files .database) .osError
  liftChecked (check (bounded lib maxDatabaseBytes database = true)
    (.recoveryPoint "Recovery point database size is invalid."))
  let payload := manifestOf lib completed release rawDeployment backup database
  liftChecked (check (validatePointManifest lib payload = true)
    (.recoveryPoint "Recovery point manifest fields are invalid."))
  writePrivateFile name .manifest (lib.dumpManifest payload)
  let _ ← perform
  change fun _ => .renameStaging name
  let _ ← perform
  return payload

/-- `_remove_staging_directory`. -/
def removeStagingDirectory (name : PointName) : Job Bytes Unit :=
  swallowing do
    let there ← inspect fun d => .ok (decide (name ∈ d.staging))
    if there then
      discard (.unlinkStaged name .manifest)
      discard (.unlinkStaged name .database)
      discard (.unlinkStaged name .deployment)
      change fun _ => .rmdirStaging name

/-- `_write_atomic_json` of the health pointer. -/
def writeAtomicHealth (raw : Bytes) : Job Bytes Unit := do
  let token ← ask .token
  cleaning (do
      let torn ← ask .torn
      change fun _ => .createTemporary token torn
      change fun _ => .fillTemporary token raw
      change fun _ => .replaceHealth token
      let _ ← perform)
    (discard fun _ => .unlinkTemporary token)
  discard fun _ => .unlinkTemporary token

variable [DecidableEq Digest]

/-- The removal of one expired point. -/
def removeExpired (name : PointName) : Job Bytes Unit := do
  let _ ← inspect fun d => verifyNamedPoint lib d name
  change (.unlinkPoint name .manifest)
  change (.unlinkPoint name .database)
  change (.unlinkPoint name .deployment)
  change fun _ => .rmdirPoint name

/-- The loop of `_apply_retention`. -/
def removeAllExpired (retained : List PointName) : List PointName → Job Bytes Unit
  | [] => return ()
  | name :: rest => do
      if name ∉ retained then
        removeExpired lib name
      removeAllExpired retained rest

/-- The names `_apply_retention` keeps. -/
def retainedNames (points : List PointName) (retention : Nat) (protectedName : PointName) :
    List PointName :=
  protectedName :: (points.filter (· ≠ protectedName)).take (retention - 1)

/-- `_apply_retention`. -/
def applyRetention (retention : Nat) (protectedName : PointName) : Job Bytes Unit := do
  let listing ← ask .listing
  let points ← inspect fun d => .ok (newestFirst (listing : List EntryName) d)
  liftChecked (check (protectedName ∈ points)
    (.recoveryPoint "Current recovery point is unavailable."))
  removeAllExpired lib (retainedNames points retention protectedName) points
  let _ ← perform

/-- The verifications of `_preflight_retention`. -/
def verifyAll : List PointName → Job Bytes Unit
  | [] => return ()
  | name :: rest => do
      let _ ← inspect fun d => verifyNamedPoint lib d name
      verifyAll rest

/-- `_preflight_retention`. -/
def preflightRetention (retention : Nat) : Job Bytes Unit := do
  let listing ← ask .listing
  let points ← inspect fun d => .ok (newestFirst (listing : List EntryName) d)
  verifyAll lib (points.drop (retention - 1))

/-- The pointer's content for a point that was just published. -/
def healthOf (payload : PointManifest Digest) (name : PointName)
    (verified : VerifiedPoint Digest) (recoveryManifestSha256 : Digest) : Health Digest where
  createdAt := payload.createdAt
  recoveryPoint := name
  recoveryManifestSha256 := recoveryManifestSha256
  databaseSha256 := verified.databaseSha256
  release := payload.release
  manifestSha256 := payload.manifestSha256

/-- What follows the publication. -/
def pointHealthAt (retention : Nat) (name : PointName) (payload : PointManifest Digest) :
    Job Bytes (VerifiedPoint Digest) := do
  let verified ← inspect fun d => verifyNamedPoint lib d name
  let digest ← inspect fun d => fileDigest lib d name .manifest
  let health := healthOf payload name verified digest
  liftChecked (check (validateHealth lib health = true)
    (.recoveryPoint "Recovery point health fields are invalid."))
  writeAtomicHealth (lib.dumpHealth health)
  applyRetention lib retention name
  let _ ← inspect fun d => verifyRecoveryPointHealth lib d
  return verified

/-- The deployment manifest of a call, that of the latest point where it is
left out. -/
def deploymentBytes (deploymentManifest : Option Bytes) : Job Bytes Bytes := do
  match deploymentManifest with
  | some raw =>
      let _ ← perform
      liftChecked (check (bounded lib maxJsonBytes raw = true)
        (.recoveryPoint "Deployment manifest must be a bounded regular file."))
      return raw
  | none =>
      let point ← inspect fun d => verifyRecoveryPointHealth lib d
      inspect fun d => present
        (((d.points.lookup point.directory).bind fun dir => dir.files .deployment).filter
          fun raw => bounded lib maxJsonBytes raw)
        (.recoveryPoint "Deployment manifest is unavailable.")

/-- The time of a point. -/
def completionTime (createdAt : Option CreatedAt) : Job Bytes Int := do
  match createdAt with
  | some time =>
      liftChecked (check (time.aware = true)
        (.recoveryPoint "Recovery point time must be timezone-aware."))
      return time.instant
  | none => ask .utcnow

/-- `except (OSError, ValueError, sqlite3.Error, RuntimeError)`. -/
def publicationFailed : Raised → Raised
  | .recoveryPoint text => .recoveryPoint text
  | _ => .recoveryPoint "Recovery point publication failed."

/-- `_create_recovery_point_unlocked`. -/
def createRecoveryPointUnlocked (call : Call Bytes Digest) :
    Job Bytes (VerifiedPoint Digest) := do
  let listing ← ask .listing
  inspect fun d => validateRootEntries lib (listing : List EntryName) d
  preflightRetention lib call.retention
  let rawDeployment ← deploymentBytes lib call.deploymentManifest
  let release ← liftChecked (present (lib.validateReleaseManifest rawDeployment)
    (.recoveryPoint "Deployment manifest contract is invalid."))
  let completed ← completionTime call.createdAt
  let token ← ask .token
  let name : PointName := ⟨release.tag, completed, token⟩
  liftChecked (check (nameMatches lib name = true)
    (.recoveryPoint "Recovery point name is invalid."))
  tryCatch (do
      let payload ← cleaning (stagePoint lib call name completed release rawDeployment)
        (removeStagingDirectory name)
      pointHealthAt lib call.retention name payload)
    fun raised => throw (publicationFailed raised)

/-- `_locked_recovery_point_directory`'s `except OSError`. -/
def lockUnavailable : Raised → Raised
  | .osError => .recoveryPoint "Recovery point lock is unavailable."
  | raised => raised

/-- `create_recovery_point`. -/
def createRecoveryPoint (call : Call Bytes Digest) : Job Bytes (VerifiedPoint Digest) := do
  liftChecked (check (2 ≤ call.retention ∧ call.retention ≤ 365)
    (.recoveryPoint "Recovery point retention is invalid."))
  liftChecked (check (3600 ≤ call.maximumSourceAgeSeconds ∧
      call.maximumSourceAgeSeconds ≤ 2592000)
    (.recoveryPoint "Recovery point source age limit is invalid."))
  tryCatch (do
      change fun _ => .createLock
      createRecoveryPointUnlocked lib call)
    fun raised => throw (lockUnavailable raised)

end Create

end TonTracker.RecoveryPoint
