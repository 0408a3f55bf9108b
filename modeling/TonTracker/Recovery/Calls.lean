/-
# `Recovery.Calls` — a call of `create_recovery_point`

The first look at the directory accepts it exactly where it is clean
(`validateRootEntries_eq_ok`); from there a call succeeds unless something
goes wrong, and whatever goes wrong each of its steps is careful
(`create_does`).
-/
import TonTracker.Recovery.Retention

namespace TonTracker.RecoveryPoint

open CrashRuns (does_mono does_pure does_rethrow)
open ExceptFold (present check_eq_ok present_eq_ok bind_eq_ok)

variable {Bytes Digest : Type} [DecidableEq Digest] (lib : RecoveryLibrary Bytes Digest)

/-! ## A call -/

/-- What a successful call needs of the directory: no entry of another
shape, and no point that is not whole. -/
structure Clean (d : RecoveryDirectory Bytes) : Prop where
  temporaries : ∀ token, token ∉ d.temporaries
  staging : ∀ name, name ∉ d.staging
  points : ∀ name dir, d.points.lookup name = some dir → dir.complete = true

/-- A call with a valid heartbeat, deployment manifest and retention. -/
structure Ready (call : Call Bytes Digest) (d : RecoveryDirectory Bytes) : Prop where
  retention : 2 ≤ call.retention ∧ call.retention ≤ 365
  age : 3600 ≤ call.maximumSourceAgeSeconds ∧ call.maximumSourceAgeSeconds ≤ 2592000
  backup : ∃ backup, call.heartbeat = .ok backup ∧ ValidBackup lib backup
  deployment : ∀ raw, call.deploymentManifest = some raw → bounded lib maxJsonBytes raw = true ∧
    ∃ release, lib.validateReleaseManifest raw = some release ∧
      release.tag.length + 60 ≤ nameMax
  -- without a manifest of its own the call takes that of the latest point
  pointed : call.deploymentManifest = none → d.health.isSome
  createdAt : ∀ time, call.createdAt = some time → time.aware = true ∧
    isTimestamp time.instant = true ∧ yearThousand ≤ time.instant

/-- What a call on `d₀` achieves: one more point, which the pointer names,
among at most as many as are retained. -/
structure Achieved (call : Call Bytes Digest) (d₀ : RecoveryDirectory Bytes)
    (point : VerifiedPoint Digest) (d : RecoveryDirectory Bytes) : Prop where
  sound : Sound lib d
  pointer : verifyRecoveryPointHealth lib d = .ok point
  few : d.points.keys.length ≤ call.retention
  there : point.directory ∈ d.points
  new : ∀ dir, d₀.points.lookup point.directory = some dir → dir.isEmpty = true

section Calls

variable {lib} {fine : Prop} {call : Call Bytes Digest} {d₀ d : RecoveryDirectory Bytes}

/-- Every complete point verifies. -/
theorem Sound.verifies (hd : Sound lib d) {name : PointName} {dir : PointDirectory Bytes}
    (hdir : d.points.lookup name = some dir) (hcomplete : dir.complete = true) :
    Verifies lib name dir := by
  refine hd.points name dir hdir ?_
  unfold PointDirectory.complete at hcomplete
  rw [Bool.and_eq_true, Bool.and_eq_true, Bool.and_eq_true] at hcomplete
  exact hcomplete.1.1.1

theorem verifyNamed_of_complete (hd : Sound lib d) {name : PointName} (hname : name ∈ d.points)
    (hcomplete : ∀ dir, d.points.lookup name = some dir → dir.complete = true) :
    ∃ point, verifyNamedPoint lib d name = .ok point := by
  obtain ⟨dir, hdir⟩ := Option.isSome_iff_exists.mp (AList.lookup_isSome.mpr hname)
  obtain ⟨point, hpoint, -⟩ := hd.verifies hdir (hcomplete dir hdir)
  exact ⟨point, bind_eq_ok.mpr ⟨dir, present_eq_ok.mpr hdir, hpoint⟩⟩

/-- What an entry must be. -/
def EntryAccepted (lib : RecoveryLibrary Bytes Digest) (d : RecoveryDirectory Bytes) :
    EntryName → Prop
  | .lock | .health => True
  | .temporary _ | .staging _ => False
  | .point name => ∃ dir entries, d.points.lookup name = some dir ∧
      pointEntries lib dir = .ok entries

theorem validateEntry_eq_ok {hasHealth hasHealth' : Bool} {entry : EntryName} :
    validateEntry lib d hasHealth entry = .ok hasHealth' ↔
      EntryAccepted lib d entry ∧ hasHealth' = (hasHealth || decide (entry = .health)) := by
  cases entry with
  | lock => simp [validateEntry, EntryAccepted, eq_comm]
  | health => simp [validateEntry, EntryAccepted, eq_comm]
  | temporary token => simp [validateEntry, EntryAccepted]
  | staging name => simp [validateEntry, EntryAccepted]
  | point name =>
      unfold validateEntry EntryAccepted
      constructor
      · intro h
        obtain ⟨dir, hdir, h⟩ := bind_eq_ok.mp h
        obtain ⟨entries, hentries, h⟩ := bind_eq_ok.mp h
        cases h
        exact ⟨⟨dir, entries, present_eq_ok.mp hdir, hentries⟩, by simp⟩
      · rintro ⟨⟨dir, entries, hdir, hentries⟩, rfl⟩
        refine bind_eq_ok.mpr ⟨dir, present_eq_ok.mpr hdir, ?_⟩
        exact bind_eq_ok.mpr ⟨entries, hentries, by simp [pure, Except.pure]⟩

theorem validateEntries_eq_ok {entries : List EntryName} {hasHealth hasHealth' : Bool} :
    entries.foldlM (validateEntry lib d) hasHealth = .ok hasHealth' ↔
      (∀ entry ∈ entries, EntryAccepted lib d entry) ∧
        hasHealth' = (hasHealth || decide (.health ∈ entries)) := by
  induction entries generalizing hasHealth with
  | nil => simp [pure, Except.pure, eq_comm]
  | cons entry rest ih =>
      rw [List.foldlM_cons, bind_eq_ok]
      simp only [validateEntry_eq_ok, ih, List.forall_mem_cons]
      constructor
      · rintro ⟨mid, ⟨hentry, rfl⟩, hrest, rfl⟩
        refine ⟨⟨hentry, hrest⟩, ?_⟩
        simp [Bool.or_assoc, eq_comm]
      · rintro ⟨⟨hentry, hrest⟩, rfl⟩
        refine ⟨_, ⟨hentry, rfl⟩, hrest, ?_⟩
        simp [Bool.or_assoc, eq_comm]

theorem mem_entries {entry : EntryName} : entry ∈ d.entries ↔ match entry with
    | .lock => d.lock = true
    | .health => d.health.isSome = true
    | .temporary token => token ∈ d.temporaries
    | .staging name => name ∈ d.staging
    | .point name => name ∈ d.points := by
  unfold RecoveryDirectory.entries
  simp only [List.mem_append, List.mem_map, ← AList.mem_keys]
  cases entry <;> by_cases hlock : d.lock = true <;> by_cases hhealth : d.health.isSome = true <;>
    simp [hlock, hhealth]

/-- The first look at the directory accepts it exactly where it is clean. -/
theorem validateRootEntries_eq_ok (hd : Sound lib d) (listing : List EntryName) :
    (∃ u, validateRootEntries lib listing d = .ok u) ↔ Clean d := by
  have hmem : ∀ entry, entry ∈ listed listing d ↔ entry ∈ d.entries := fun entry =>
    (listed_perm listing d).mem_iff
  have haccepted : (∀ entry ∈ listed listing d, EntryAccepted lib d entry) ↔ Clean d := by
    constructor
    · intro h
      refine ⟨fun token htoken => ?_, fun name hname => ?_, fun name dir hdir => ?_⟩
      · exact h (.temporary token) ((hmem _).mpr (mem_entries.mpr htoken))
      · exact h (.staging name) ((hmem _).mpr (mem_entries.mpr hname))
      · have there : name ∈ d.points := AList.lookup_isSome.mp (by rw [hdir]; rfl)
        obtain ⟨dir', entries, hdir', hentries⟩ :=
          h (.point name) ((hmem _).mpr (mem_entries.mpr there))
        rw [hdir] at hdir'
        cases hdir'
        exact pointEntries_complete hentries
    · intro h entry hentry
      have hentry := mem_entries.mp ((hmem entry).mp hentry)
      cases entry with
      | lock => trivial
      | health => trivial
      | temporary token => exact (h.temporaries token hentry).elim
      | staging name => exact (h.staging name hentry).elim
      | point name =>
          obtain ⟨dir, hdir⟩ := Option.isSome_iff_exists.mp (AList.lookup_isSome.mpr hentry)
          obtain ⟨entries, hentries⟩ := (hd.verifies hdir (h.points name dir hdir)).entries
          exact ⟨dir, entries, hdir, hentries⟩
  unfold validateRootEntries
  constructor
  · rintro ⟨u, h⟩
    obtain ⟨hasHealth, hfold, -⟩ := bind_eq_ok.mp h
    exact haccepted.mp (validateEntries_eq_ok.mp hfold).1
  · intro h
    refine ⟨(), bind_eq_ok.mpr ⟨_, validateEntries_eq_ok.mpr ⟨haccepted.mpr h, rfl⟩, ?_⟩⟩
    by_cases hhealth : EntryName.health ∈ listed listing d
    · have some := mem_entries.mp ((hmem .health).mp hhealth)
      obtain ⟨raw, hraw⟩ := Option.isSome_iff_exists.mp some
      obtain ⟨point, hpoint⟩ := hd.pointer raw hraw
      rw [if_pos (by simpa using hhealth)]
      exact bind_eq_ok.mpr ⟨point, hpoint, rfl⟩
    · rw [if_neg (by simpa using hhealth)]
      rfl

/-- `_apply_retention` around the point that the pointer names. -/
theorem performs_applyRetention {retention : Nat} (hretention : 2 ≤ retention) {name : PointName}
    (hname : ∀ other, Pointed lib d₀ other → other = name) (hd : Sound lib d₀)
    (hthere : name ∈ d₀.points)
    (hfine : fine → ∀ name dir, d₀.points.lookup name = some dir → dir.complete = true) :
    Performs lib fine call (applyRetention lib retention name)
      (fun _ d => Sound lib d ∧ d.health = d₀.health ∧ d.points.keys.length ≤ retention ∧
        d.points.lookup name = d₀.points.lookup name) (Sound lib) d₀ := by
  unfold applyRetention
  apply performs_bind
  intro (listing : List EntryName) _
  refine performs_via (fun points d => d = d₀ ∧ points = newestFirst listing d₀)
    (performs_inspect (fun points hpoints => ⟨rfl, (Except.ok.inj hpoints).symm⟩) hd
      fun _ => ⟨_, rfl⟩) fun points d₁ h₁ => ?_
  obtain ⟨rfl, rfl⟩ := h₁
  refine performs_via (fun _ d => d = d₁) (performs_checked (fun _ _ => rfl) hd fun _ =>
    ⟨(), check_eq_ok.mpr (mem_newestFirst.mpr hthere)⟩) fun _ d₂ h₂ => ?_
  subst h₂
  have hself : name ∈ retainedNames (newestFirst listing d₂) retention name :=
    List.mem_cons_self
  refine performs_then (performs_removeAllExpired
    (fun other hother => hname other hother ▸ hself) (nodup_newestFirst listing d₂) hd
      fun hf other hother _ => verifyNamed_of_complete hd (mem_newestFirst.mp hother)
        (hfine hf other)) fun _ d₃ h₃ => ?_
  obtain ⟨hsound, hhealth, hgone, hkept⟩ := h₃
  refine performs_sync hsound fun _ => does_pure ⟨hsound, hhealth, ?_, hkept name fun _ => hself⟩
  · -- what is left is retained
    have hsubset : ∀ other ∈ d₃.points.keys,
        other ∈ retainedNames (newestFirst listing d₂) retention name := by
      intro other hother
      by_contra hnot
      have hother := AList.mem_keys.mpr hother
      by_cases hmem : other ∈ newestFirst listing d₂
      · exact hgone other hmem hnot hother
      · have same := hkept other fun h => absurd h hmem
        rw [← AList.lookup_isSome, same, AList.lookup_isSome] at hother
        exact hmem (mem_newestFirst.mpr hother)
    refine ((List.subperm_of_subset d₃.points.keys_nodup hsubset).length_le).trans ?_
    unfold retainedNames
    rw [List.length_cons]
    have := List.length_take_le (retention - 1) ((newestFirst listing d₂).filter (· ≠ name))
    omega

/-- The verifications before a publication. -/
theorem performs_verifyAll (hd : Sound lib d₀) {points : List PointName}
    (hfine : fine → ∀ name ∈ points, ∃ point, verifyNamedPoint lib d₀ name = .ok point) :
    Performs lib fine call (verifyAll lib points) (fun _ d => d = d₀) (Sound lib) d₀ := by
  induction points with
  | nil => exact does_pure rfl
  | cons name rest ih =>
      unfold verifyAll
      refine performs_via (fun _ d => d = d₀) (performs_inspect (fun _ _ => rfl) hd fun hf =>
        hfine hf name List.mem_cons_self) fun _ d h => ?_
      subst h
      exact ih fun hf other hother => hfine hf other (List.mem_cons_of_mem _ hother)

/-- `_preflight_retention`. -/
theorem performs_preflight {retention : Nat} (hd : Sound lib d₀)
    (hfine : fine → ∀ name dir, d₀.points.lookup name = some dir → dir.complete = true) :
    Performs lib fine call (preflightRetention lib retention) (fun _ d => d = d₀) (Sound lib)
      d₀ := by
  unfold preflightRetention
  apply performs_bind
  intro (listing : List EntryName) _
  refine performs_via (fun points d => d = d₀ ∧ points = newestFirst listing d₀)
    (performs_inspect (fun points hpoints => ⟨rfl, (Except.ok.inj hpoints).symm⟩) hd
      fun _ => ⟨_, rfl⟩) fun points d h => ?_
  obtain ⟨rfl, rfl⟩ := h
  refine performs_verifyAll hd fun hf name hname => ?_
  have hname := mem_newestFirst.mp (List.mem_of_mem_drop hname)
  exact verifyNamed_of_complete hd hname (hfine hf name)

/-- The pointer's file for a point that was just published. -/
theorem pointer_verifies (lawful : lib.Lawful) {name : PointName} {payload : PointManifest Digest}
    (h : Published lib name payload d₀) {point : VerifiedPoint Digest}
    (hpoint : verifyNamedPoint lib d₀ name = .ok point)
    (hhealth : d.health = some (lib.dumpHealth
      (healthOf payload name point (lib.sha256 (lib.dumpManifest payload)))))
    (hpoints : d.points = d₀.points) :
    readHealth lib d =
        .ok (healthOf payload name point (lib.sha256 (lib.dumpManifest payload))) ∧
      verifyRecoveryPointHealth lib d = .ok point := by
  obtain ⟨dir, point', hdir, hverified, hmanifest, htag, hcommit, hdigest, hcreated⟩ := h.dir
  have same : point' = point := by
    unfold verifyNamedPoint at hpoint
    obtain ⟨dir', hdir', hpoint⟩ := bind_eq_ok.mp hpoint
    have hdir' := present_eq_ok.mp hdir'
    rw [hdir] at hdir'
    cases hdir'
    rw [hverified] at hpoint
    cases hpoint
    rfl
  subst same
  have valid := validatePointManifest_iff.mp h.valid
  have hhealthValid : validateHealth lib
      (healthOf payload name point' (lib.sha256 (lib.dumpManifest payload))) = true := by
    unfold validateHealth healthOf
    rw [valid.1, h.named, valid.2.2.1]
    rfl
  obtain ⟨hsmall, hload⟩ := lawful.health
    (healthOf payload name point' (lib.sha256 (lib.dumpManifest payload)))
    (Nat.le_of_add_right_le h.fits.2) (Nat.le_of_add_right_le h.fits.1) hhealthValid
  have hread : readHealth lib d =
      .ok (healthOf payload name point' (lib.sha256 (lib.dumpManifest payload))) := by
    unfold readHealth
    refine bind_eq_ok.mpr ⟨_, present_eq_ok.mpr hhealth, ?_⟩
    refine bind_eq_ok.mpr ⟨(), check_eq_ok.mpr hsmall, present_eq_ok.mpr ?_⟩
    rw [hload]
    exact Option.filter_some_pos hhealthValid
  refine ⟨hread, ?_⟩
  unfold verifyRecoveryPointHealth
  refine bind_eq_ok.mpr ⟨_, hread, ?_⟩
  refine bind_eq_ok.mpr ⟨point', ?_, ?_⟩
  · unfold verifyNamedPoint
    rw [hpoints]
    exact bind_eq_ok.mpr ⟨dir, present_eq_ok.mpr hdir, hverified⟩
  refine bind_eq_ok.mpr ⟨lib.sha256 (lib.dumpManifest payload), ?_, ?_⟩
  · unfold fileDigest
    refine bind_eq_ok.mpr ⟨lib.dumpManifest payload, present_eq_ok.mpr ?_, rfl⟩
    show ((d.points.lookup name).bind fun dir => dir.files .manifest) = _
    rw [hpoints, hdir]
    exact hmanifest
  · exact bind_eq_ok.mpr ⟨(), check_eq_ok.mpr ⟨htag, hcommit, hdigest, rfl, rfl, hcreated⟩, rfl⟩

/-- What follows the publication. -/
theorem performs_pointHealthAt (lawful : lib.Lawful) (hretention : 2 ≤ call.retention)
    {name : PointName} {payload : PointManifest Digest} (h : Published lib name payload d₀)
    (hnew : ∀ dir, d.points.lookup name = some dir → dir.isEmpty = true)
    (hfine : fine → ∀ name dir, d₀.points.lookup name = some dir → dir.complete = true) :
    Performs lib fine call (pointHealthAt lib call.retention name payload)
      (Achieved lib call d) (Sound lib) d₀ := by
  obtain ⟨dir, point', hdir, hverified, hmanifest, -⟩ := h.dir
  have hnamed : verifyNamedPoint lib d₀ name = .ok point' :=
    bind_eq_ok.mpr ⟨dir, present_eq_ok.mpr hdir, hverified⟩
  have hdigest : fileDigest lib d₀ name .manifest = .ok (lib.sha256 (lib.dumpManifest payload)) := by
    unfold fileDigest
    refine bind_eq_ok.mpr ⟨lib.dumpManifest payload, present_eq_ok.mpr ?_, rfl⟩
    rw [hdir]
    exact hmanifest
  unfold pointHealthAt
  refine performs_via (fun point d => d = d₀ ∧ point = point')
    (performs_inspect (fun point hpoint => ⟨rfl, ?_⟩) h.sound fun _ => ⟨_, hnamed⟩)
    fun point d₁ h₁ => ?_
  · rw [hnamed] at hpoint
    exact (Except.ok.inj hpoint).symm
  obtain ⟨rfl, rfl⟩ := h₁
  refine performs_via (fun digest d => d = d₁ ∧ digest = lib.sha256 (lib.dumpManifest payload))
    (performs_inspect (fun digest hfound => ⟨rfl, ?_⟩) h.sound fun _ => ⟨_, hdigest⟩)
    fun digest d₂ h₂ => ?_
  · rw [hdigest] at hfound
    exact (Except.ok.inj hfound).symm
  obtain ⟨rfl, rfl⟩ := h₂
  have hvalid : validateHealth lib
      (healthOf payload name point (lib.sha256 (lib.dumpManifest payload))) = true := by
    have valid := validatePointManifest_iff.mp h.valid
    unfold validateHealth healthOf
    rw [valid.1, h.named, valid.2.2.1]
    rfl
  refine performs_via (fun _ d => d = d₂) (performs_checked (fun _ _ => rfl) h.sound fun _ =>
    ⟨(), check_eq_ok.mpr hvalid⟩) fun _ d₃ h₃ => ?_
  subst h₃
  refine performs_then (performs_writeAtomicHealth h.sound fun d hhealth hpoints =>
    ⟨point, (pointer_verifies lawful h hnamed hhealth hpoints).2⟩) fun _ d₄ h₄ => ?_
  obtain ⟨hsound, hhealth, hpoints⟩ := h₄
  -- the pointer names the new point
  have hpointed : ∀ other, Pointed lib d₄ other → other = name := by
    rintro other ⟨health, hread, rfl⟩
    rw [(pointer_verifies lawful h hnamed hhealth hpoints).1] at hread
    cases hread
    rfl
  have hthere : name ∈ d₄.points := by
    rw [← AList.lookup_isSome, hpoints, hdir]
    rfl
  refine performs_then (performs_applyRetention hretention hpointed hsound hthere fun hf => by
    rw [hpoints]
    exact hfine hf) fun _ d₅ h₅ => ?_
  obtain ⟨hsound₅, hhealth₅, hfew, hkept₅⟩ := h₅
  have hthere₅ : name ∈ d₅.points := by
    rw [← AList.lookup_isSome, hkept₅, AList.lookup_isSome]
    exact hthere
  have hsome : d₅.health = some (lib.dumpHealth (healthOf payload name point
      (lib.sha256 (lib.dumpManifest payload)))) := hhealth₅.trans hhealth
  refine performs_then (performs_inspect (fun _ _ => rfl) hsound₅ fun _ =>
    hsound₅.pointer _ hsome) fun _ d₆ (h₆ : d₅ = d₆) => ?_
  subst h₆
  -- the pointer still names it
  have hpointer : verifyRecoveryPointHealth lib d₅ = .ok point := by
    rw [verifyHealth_congr hhealth₅ fun other hother => by
      rw [hpointed other hother]
      exact hkept₅]
    exact (pointer_verifies lawful h hnamed hhealth hpoints).2
  have hdirectory := verifyRecoveryPoint_directory hverified
  exact does_pure ⟨hsound₅, hpointer, hfew, hdirectory ▸ hthere₅, hdirectory ▸ hnew⟩

/-- A point that verifies holds a deployment manifest of its own tag. -/
theorem deployment_of_verified {name : PointName} {dir : PointDirectory Bytes}
    {point : VerifiedPoint Digest} (h : verifyRecoveryPoint lib name dir = .ok point) :
    ∃ raw release, dir.files .deployment = some raw ∧ bounded lib maxJsonBytes raw = true ∧
      lib.validateReleaseManifest raw = some release ∧ release.tag = point.tag := by
  unfold verifyRecoveryPoint at h
  obtain ⟨⟨manifest, raw, database⟩, hentries, h⟩ := bind_eq_ok.mp h
  obtain ⟨payload, -, h⟩ := bind_eq_ok.mp h
  obtain ⟨release, hrelease, h⟩ := bind_eq_ok.mp h
  obtain ⟨_, hbinding, h⟩ := bind_eq_ok.mp h
  obtain ⟨_, -, h⟩ := bind_eq_ok.mp h
  obtain ⟨_, -, h⟩ := bind_eq_ok.mp h
  obtain ⟨_, -, h⟩ := bind_eq_ok.mp h
  obtain ⟨_, -, h⟩ := bind_eq_ok.mp h
  cases h
  unfold pointEntries at hentries
  obtain ⟨_, -, hentries⟩ := bind_eq_ok.mp hentries
  obtain ⟨_, -, hentries⟩ := bind_eq_ok.mp hentries
  obtain ⟨raw', hraw, hentries⟩ := bind_eq_ok.mp hentries
  obtain ⟨_, -, hentries⟩ := bind_eq_ok.mp hentries
  cases hentries
  obtain ⟨hfile, hbounded⟩ := regularFile_eq_ok.mp hraw
  exact ⟨raw, release, hfile, hbounded, present_eq_ok.mp hrelease, (check_eq_ok.mp hbinding).1⟩

/-- The bytes of the deployment manifest. -/
theorem performs_deploymentBytes (hd : Sound lib d₀) (hfine : fine → Ready lib call d₀) :
    Performs lib fine call (deploymentBytes lib call.deploymentManifest)
      (fun raw d => d = d₀ ∧ bounded lib maxJsonBytes raw = true ∧
        (fine → ∃ release, lib.validateReleaseManifest raw = some release ∧
          release.tag.length + 60 ≤ nameMax)) (Sound lib) d₀ := by
  cases hmanifest : call.deploymentManifest with
  | some raw =>
      refine performs_sync hd fun _ => ?_
      refine performs_via (fun _ d => d = d₀ ∧ bounded lib maxJsonBytes raw = true)
        (performs_checked (fun _ h => ⟨rfl, check_eq_ok.mp h⟩) hd fun hf =>
          ⟨(), check_eq_ok.mpr ((hfine hf).deployment raw hmanifest).1⟩) fun _ d h => ?_
      exact does_pure ⟨h.1, h.2, fun hf => ((hfine hf).deployment raw hmanifest).2⟩
  | none =>
      refine performs_via (fun point d => d = d₀ ∧ verifyRecoveryPointHealth lib d₀ = .ok point)
        (performs_inspect (fun point hpoint => ⟨rfl, hpoint⟩) hd fun hf => ?_) fun point d h => ?_
      · obtain ⟨raw, hraw⟩ := Option.isSome_iff_exists.mp ((hfine hf).pointed hmanifest)
        exact hd.pointer raw hraw
      · obtain ⟨rfl, hpoint⟩ := h
        obtain ⟨health, dir, -, hdir, hverified⟩ := pointer_there hpoint
        obtain ⟨raw, release, hfile, hbounded, hrelease, htag⟩ := deployment_of_verified hverified
        have hcomplete : dir.complete = true := by
          obtain ⟨_, hentries, -⟩ := bind_eq_ok.mp hverified
          exact pointEntries_complete hentries
        obtain ⟨point', hverified', hfits⟩ := hd.verifies hdir hcomplete
        rw [hverified] at hverified'
        cases hverified'
        have hread : ((d.points.lookup point.directory).bind fun dir =>
            dir.files .deployment).filter (fun raw => bounded lib maxJsonBytes raw) = some raw := by
          rw [verifyRecoveryPoint_directory hverified, hdir]
          show (dir.files .deployment).filter _ = _
          rw [hfile]
          exact Option.filter_some_pos hbounded
        refine performs_inspect (fun raw' hraw' => ⟨rfl, ?_⟩) hd fun _ =>
          ⟨raw, present_eq_ok.mpr hread⟩
        have hraw' := present_eq_ok.mp hraw'
        rw [hread] at hraw'
        cases hraw'
        exact ⟨hbounded, fun _ => ⟨release, hrelease, htag ▸ hfits⟩⟩

/-- The time of the point. -/
theorem performs_completionTime (hd : Sound lib d₀) (hfine : fine → Ready lib call d₀) :
    Performs lib fine call (completionTime call.createdAt)
      (fun time d => d = d₀ ∧ (fine → isTimestamp time = true ∧ yearThousand ≤ time)) (Sound lib)
      d₀ := by
  cases hcreated : call.createdAt with
  | some time =>
      refine performs_via (fun _ d => d = d₀) (performs_checked (fun _ _ => rfl) hd fun hf =>
        ⟨(), check_eq_ok.mpr ((hfine hf).createdAt time hcreated).1⟩) fun _ d h => ?_
      exact does_pure ⟨h, fun hf => ((hfine hf).createdAt time hcreated).2⟩
  | none => exact performs_ask fun time htime => ⟨rfl, htime⟩

/-- `_create_recovery_point_unlocked`. -/
theorem performs_createUnlocked (lawful : lib.Lawful) (hretention : 2 ≤ call.retention)
    (hd : Sound lib d₀) (hfine : fine → Ready lib call d₀ ∧ Clean d₀) :
    Performs lib fine call (createRecoveryPointUnlocked lib call) (Achieved lib call d₀)
      (Sound lib) d₀ := by
  unfold createRecoveryPointUnlocked
  apply performs_bind
  intro (listing : List EntryName) _
  refine performs_via (fun _ d => d = d₀) (performs_inspect (fun _ _ => rfl) hd fun hf =>
    (validateRootEntries_eq_ok hd listing).mpr (hfine hf).2) fun _ d₁ h₁ => ?_
  subst h₁
  refine performs_then (performs_preflight hd fun hf => (hfine hf).2.points) fun _ d₂ h₂ => ?_
  subst h₂
  refine performs_then (performs_deploymentBytes hd fun hf => (hfine hf).1) fun raw d₃ h₃ => ?_
  obtain ⟨rfl, hraw, hmanifest⟩ := h₃
  refine performs_via (fun release d => d = d₃ ∧ lib.validateReleaseManifest raw = some release)
    (performs_checked (fun release h => ⟨rfl, present_eq_ok.mp h⟩) hd fun hf => ?_)
    fun release d₄ h₄ => ?_
  · obtain ⟨release, hrelease, -⟩ := hmanifest hf
    exact ⟨release, present_eq_ok.mpr hrelease⟩
  obtain ⟨rfl, hrelease⟩ := h₄
  refine performs_then (performs_completionTime hd fun hf => (hfine hf).1) fun time d₅ h₅ => ?_
  obtain ⟨rfl, htime⟩ := h₅
  apply performs_bind
  intro (token : Nat) htoken
  refine performs_via (fun _ d => d = d₅ ∧
      nameMatches lib ⟨release.tag, time, token⟩ = true)
    (performs_checked (fun _ h => ⟨rfl, check_eq_ok.mp h⟩) hd fun hf => ⟨(), ?_⟩) fun _ d₆ h₆ => ?_
  · have hmatches := lawful.release raw release hrelease
    unfold releaseMatches at hmatches
    rw [Bool.and_eq_true] at hmatches
    refine check_eq_ok.mpr ?_
    unfold nameMatches
    rw [hmatches.1, (htime hf).1, decide_eq_true (htime hf).2]
    rfl
  obtain ⟨rfl, hname⟩ := h₆
  refine does_rethrow ?_
  refine performs_then (performs_cleaning (Sound lib) (performs_stagePoint lawful hd hname rfl hraw
    hrelease fun hf => ?_) fun d' hf h' => ?_) fun payload d₇ h₇ => ?_
  · obtain ⟨release', hrelease', hfits⟩ := hmanifest hf
    rw [hrelease] at hrelease'
    cases hrelease'
    have hnew := (htoken hf).2
    exact ⟨(hfine hf).1.backup, fun h => hnew.1 _ h rfl, fun h => hnew.2 _ h rfl, hfits⟩
  · exact does_mono (performs_removeStaging hf h' ⟨rfl, rfl, rfl⟩ _) (fun _ _ h => h.sound h')
      fun _ h => h.sound h'
  · obtain ⟨hpublished, hothers, hnew⟩ := h₇
    refine performs_pointHealthAt lawful hretention hpublished hnew fun hf other dir hdir => ?_
    by_cases heq : other = ⟨release.tag, time, token⟩
    · obtain ⟨dir', point, hdir', hverified, -⟩ := hpublished.dir
      rw [heq, hdir'] at hdir
      cases hdir
      obtain ⟨_, hentries, -⟩ := bind_eq_ok.mp hverified
      exact pointEntries_complete hentries
    · rw [hothers other heq] at hdir
      exact (hfine hf).2.points other dir hdir

/-- `create_recovery_point`: careful in every step whatever happens, and
successful where nothing does and the directory was clean. -/
theorem create_does (lawful : lib.Lawful) (hd : Sound lib d₀)
    (hfine : fine → Ready lib call d₀ ∧ Clean d₀) :
    Performs lib fine call (createRecoveryPoint lib call) (Achieved lib call d₀) (Sound lib)
      d₀ := by
  unfold createRecoveryPoint
  refine performs_via (fun _ d => d = d₀ ∧ 2 ≤ call.retention)
    (performs_checked (fun _ h => ⟨rfl, (check_eq_ok.mp h).1⟩) hd fun hf =>
      ⟨(), check_eq_ok.mpr (hfine hf).1.retention⟩) fun _ d₁ h₁ => ?_
  obtain ⟨rfl, hretention⟩ := h₁
  refine performs_via (fun _ d => d = d₁) (performs_checked (fun _ _ => rfl) hd fun hf =>
    ⟨(), check_eq_ok.mpr (hfine hf).1.age⟩) fun _ d₂ h₂ => ?_
  subst h₂
  refine does_rethrow ?_
  have hlocked : Sound lib { d₂ with lock := true } := hd.congr rfl rfl
  refine performs_via (fun _ d => d = { d₂ with lock := true })
    (performs_change (fun _ => careful_outside rfl hd rfl rfl) (fun _ d h => ?_) hd
      fun _ _ => rfl) fun _ d₃ h₃ => ?_
  · cases h
    rfl
  subst h₃
  refine does_mono (performs_createUnlocked lawful hretention hlocked fun hf => ?_)
    (fun point d h => ⟨h.sound, h.pointer, h.few, h.there, h.new⟩) fun _ h => h
  obtain ⟨ready, clean⟩ := hfine hf
  exact ⟨⟨ready.retention, ready.age, ready.backup, ready.deployment, ready.pointed,
    ready.createdAt⟩, ⟨clean.temporaries, clean.staging, clean.points⟩⟩

end Calls

end TonTracker.RecoveryPoint
