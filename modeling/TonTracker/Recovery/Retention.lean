/-
# `Recovery.Retention` — the pointer, and what expires

The pointer is replaced by one that verifies over the points there are.
Expired points are taken apart file by file, the manifest first, and none
of them is the one the pointer names.
-/
import TonTracker.Recovery.Staging

namespace TonTracker.RecoveryPoint

open CrashRuns (does_mono does_pure)
open ExceptFold (check_eq_ok present_eq_ok bind_eq_ok)

variable {Bytes Digest : Type} [DecidableEq Digest] (lib : RecoveryLibrary Bytes Digest)

/-! ## The pointer -/

section Pointer

variable {lib} {fine : Prop} {call : Call Bytes Digest} {d₀ d : RecoveryDirectory Bytes}

/-- A step on a temporary file changes neither the pointer nor a point. -/
theorem careful_temporary {op : FileOp Bytes} (hd : Sound lib d)
    (hop : (∃ token torn, op = .createTemporary token torn) ∨
      (∃ token content, op = .fillTemporary token content) ∨ ∃ token, op = .unlinkTemporary token) :
    Careful lib op d ∧ (op.commit d).2.health = d.health ∧ (op.commit d).2.points = d.points := by
  have same : (op.commit d).2.health = d.health ∧ (op.commit d).2.points = d.points := by
    rcases hop with ⟨token, torn, rfl⟩ | ⟨token, content, rfl⟩ | ⟨token, rfl⟩ <;>
      simp only [FileOp.commit, FileOp.apply] <;> split <;> exact ⟨rfl, rfl⟩
  refine ⟨careful_outside ?_ hd same.1 same.2, same⟩
  rcases hop with ⟨token, torn, rfl⟩ | ⟨token, content, rfl⟩ | ⟨token, rfl⟩ <;> rfl

theorem apply_commit {op : FileOp Bytes} {d' : RecoveryDirectory Bytes}
    (h : op.apply d = some d') : (op.commit d).2 = d' := by
  show (op.apply d).getD d = d'
  rw [h]
  rfl

/-- `_write_atomic_json` of a pointer that verifies over the points there
are. -/
theorem performs_writeAtomicHealth (hd : Sound lib d₀) {raw : Bytes}
    (hpointer : ∀ d, d.health = some raw → d.points = d₀.points →
      ∃ point, verifyRecoveryPointHealth lib d = .ok point) :
    Performs lib fine call (writeAtomicHealth raw)
      (fun _ d => Sound lib d ∧ d.health = some raw ∧ d.points = d₀.points) (Sound lib) d₀ := by
  unfold writeAtomicHealth
  apply performs_bind
  intro (token : Nat) htoken
  refine performs_via (fun _ d => Sound lib d ∧ d.health = some raw ∧ d.points = d₀.points)
    (performs_cleaning (Sound lib) ?_ ?_) fun _ d₁ h₁ => ?_
  · apply performs_bind
    intro torn _
    refine performs_via (fun _ d => Sound lib d ∧ d.points = d₀.points ∧ token ∈ d.temporaries)
      (performs_change (fun _ => (careful_temporary hd (.inl ⟨token, torn, rfl⟩)).1)
        (fun _ d h => ?_) hd fun hf _ => ?_) fun _ d₁ h₁ => ?_
    · have same := (careful_temporary hd (.inl ⟨token, torn, rfl⟩)).2
      rw [apply_commit h] at same
      refine ⟨hd.congr same.1 same.2, same.2, ?_⟩
      simp only [FileOp.apply] at h
      split at h <;> cases h
      exact (AList.mem_insert _).mpr (.inl rfl)
    · have hnew : token ∉ d₀.temporaries := (htoken hf).1
      simp only [FileOp.apply, if_neg hnew, Option.isSome_some]
    refine performs_via (fun _ d => Sound lib d ∧ d.points = d₀.points ∧
        d.temporaries.lookup token = some raw)
      (performs_change (fun _ => (careful_temporary h₁.1 (.inr (.inl ⟨token, raw, rfl⟩))).1)
        (fun _ d h => ?_) h₁.1 fun _ _ => ?_) fun _ d₂ h₂ => ?_
    · have same := (careful_temporary h₁.1 (.inr (.inl ⟨token, raw, rfl⟩))).2
      rw [apply_commit h] at same
      refine ⟨h₁.1.congr same.1 same.2, same.2.trans h₁.2.1, ?_⟩
      simp only [FileOp.apply] at h
      split at h <;> cases h
      exact AList.lookup_insert _
    · simp only [FileOp.apply, if_pos h₁.2.2, Option.isSome_some]
    -- the replacement
    have happly : (FileOp.replaceHealth token).apply d₂ =
        some { d₂ with health := some raw, temporaries := d₂.temporaries.erase token } := by
      simp [FileOp.apply, h₂.2.2]
    have hsound : Sound lib
        { d₂ with health := some raw, temporaries := d₂.temporaries.erase token } :=
      ⟨h₂.1.points, fun _ _ => hpointer _ rfl h₂.2.1⟩
    refine performs_via (fun _ d => Sound lib d ∧ d.health = some raw ∧ d.points = d₀.points)
      (performs_change (fun _ => ⟨by rintro _ _ ⟨⟩, ?_⟩) (fun _ d h => ?_) h₂.1
        fun _ _ => ?_) fun _ d₃ h₃ => performs_sync h₃.1 fun _ => does_pure h₃
    · rw [apply_commit happly]
      exact hsound
    · rw [happly] at h
      cases h
      exact ⟨hsound, rfl, h₂.2.1⟩
    · rw [happly]
      rfl
  · intro d' _ h'
    have careful := careful_temporary h' (.inr (.inr ⟨token, rfl⟩))
    exact performs_discard (fun _ => careful.1) (fun _ => h'.congr careful.2.1 careful.2.2) h'
  · have careful := careful_temporary h₁.1 (.inr (.inr ⟨token, rfl⟩))
    refine performs_discard (fun _ => careful.1) (fun _ => ?_) h₁.1
    exact ⟨h₁.1.congr careful.2.1 careful.2.2, careful.2.1.trans h₁.2.1,
      careful.2.2.trans h₁.2.2⟩

/-! ## Retention -/

/-- A point that is being removed: what is left of its files, and that
nothing else has changed. -/
structure Removing (name : PointName) (files : PointFile → Option Bytes)
    (d₀ d : RecoveryDirectory Bytes) : Prop where
  health : d.health = d₀.health
  dir : ∃ time, d.points.lookup name = some ⟨time, files⟩
  others : ∀ other, other ≠ name → d.points.lookup other = d₀.points.lookup other

/-- The point is gone, and nothing else has changed. -/
structure Removed (name : PointName) (d₀ d : RecoveryDirectory Bytes) : Prop where
  health : d.health = d₀.health
  gone : name ∉ d.points
  others : ∀ other, other ≠ name → d.points.lookup other = d₀.points.lookup other

theorem Pointed.congr {name : PointName} (h : d.health = d₀.health) :
    Pointed lib d name ↔ Pointed lib d₀ name := by
  unfold Pointed
  rw [readHealth_congr h]

/-- One file of a point that the pointer does not name. -/
theorem performs_unlinkPoint (file : PointFile) {name : PointName}
    {files : PointFile → Option Bytes} (hname : ¬Pointed lib d₀ name) (hd : Sound lib d)
    (h : Removing name files d₀ d) (hfile : (files file).isSome)
    (horder : if file = .manifest then ∃ point, verifyNamedPoint lib d name = .ok point
      else files .manifest = none) :
    Performs lib fine call (change (.unlinkPoint name file))
      (fun _ d' => Sound lib d' ∧ Removing name (Function.update files file none) d₀ d')
      (Sound lib) d := by
  obtain ⟨time₀, hdir⟩ := h.dir
  obtain ⟨raw, hraw⟩ := Option.isSome_iff_exists.mp hfile
  have hname' : ¬Pointed lib d name := fun hn => hname ((Pointed.congr h.health).mp hn)
  have happly : ∀ time, (FileOp.unlinkPoint name file time).apply d = some { d with
      points := d.points.insert name ⟨time, Function.update files file none⟩ } := by
    intro time
    simp [FileOp.apply, hdir, hraw, PointDirectory.put]
  have hgone : Function.update files file none .manifest = none := by
    by_cases heq : file = .manifest
    · rw [heq, Function.update_self]
    · rw [if_neg heq] at horder
      rw [Function.update_of_ne (Ne.symm heq)]
      exact horder
  have hsound : ∀ time, Sound lib { d with
      points := d.points.insert name ⟨time, Function.update files file none⟩ } := by
    intro time
    refine hd.update rfl hname' (fun other hother => AList.lookup_insert_ne hother) ?_
    intro dir hlookup hmanifest
    have hlookup : AList.lookup name (d.points.insert name _) = some dir := hlookup
    rw [AList.lookup_insert] at hlookup
    cases hlookup
    have hmanifest : (Function.update files file none PointFile.manifest).isSome := hmanifest
    rw [hgone] at hmanifest
    cases hmanifest
  refine performs_change (fun time => ⟨?_, ?_⟩) (fun time d' h' => ?_) hd fun _ time => ?_
  · rintro name' file' heq
    cases heq
    refine ⟨hname', ?_⟩
    by_cases heq : file = .manifest
    · rw [if_pos heq] at horder
      rw [if_pos (congrArg some heq)]
      exact horder
    · rw [if_neg heq] at horder
      rw [if_neg fun h => heq (Option.some.inj h)]
      intro dir hlookup
      rw [hdir] at hlookup
      cases hlookup
      exact horder
  · rw [apply_commit (happly time)]
    exact hsound time
  · rw [happly] at h'
    cases h'
    exact ⟨hsound time, h.health, ⟨time, AList.lookup_insert _⟩,
      fun other hother => (AList.lookup_insert_ne hother).trans (h.others other hother)⟩
  · rw [happly]
    rfl

/-- The emptied directory. -/
theorem performs_rmdirPoint {name : PointName} (hname : ¬Pointed lib d₀ name) (hd : Sound lib d)
    (h : Removing name (filesOf none none none none) d₀ d) :
    Performs lib fine call (change fun _ => .rmdirPoint name)
      (fun _ d' => Sound lib d' ∧ Removed name d₀ d') (Sound lib) d := by
  obtain ⟨time₀, hdir⟩ := h.dir
  have hname' : ¬Pointed lib d name := fun hn => hname ((Pointed.congr h.health).mp hn)
  have happly : (FileOp.rmdirPoint name).apply d =
      some { d with points := d.points.erase name } := by
    simp [FileOp.apply, hdir, PointDirectory.isEmpty, filesOf]
  have hsound : Sound lib { d with points := d.points.erase name } := by
    refine hd.update rfl hname' (fun other hother => AList.lookup_erase_ne hother) ?_
    intro dir hlookup
    have hlookup : AList.lookup name (d.points.erase name) = some dir := hlookup
    rw [AList.lookup_erase] at hlookup
    cases hlookup
  refine performs_change (fun _ => ⟨?_, ?_⟩) (fun _ d' h' => ?_) hd fun _ _ => ?_
  · rintro name' file' heq
    cases heq
    refine ⟨hname', ?_⟩
    rw [if_neg (by rintro ⟨⟩)]
    intro dir hlookup
    rw [hdir] at hlookup
    cases hlookup
    rfl
  · rw [apply_commit happly]
    exact hsound
  · rw [happly] at h'
    cases h'
    refine ⟨hsound, h.health, ?_, fun other hother =>
      (AList.lookup_erase_ne hother).trans (h.others other hother)⟩
    exact AList.lookup_eq_none.mp (AList.lookup_erase _ _)
  · rw [happly]
    rfl

/-- The removal of one point. -/
theorem performs_removeExpired {name : PointName} (hname : ¬Pointed lib d₀ name)
    (hd : Sound lib d₀) (hfine : fine → ∃ point, verifyNamedPoint lib d₀ name = .ok point) :
    Performs lib fine call (removeExpired lib name)
      (fun _ d => Sound lib d ∧ Removed name d₀ d) (Sound lib) d₀ := by
  unfold removeExpired
  refine performs_via (fun _ d => d = d₀ ∧ ∃ point, verifyNamedPoint lib d₀ name = .ok point)
    (performs_inspect (fun point hpoint => ⟨rfl, point, hpoint⟩) hd hfine) fun _ d₁ h₁ => ?_
  obtain ⟨rfl, point, hpoint⟩ := h₁
  -- what verifies is complete
  obtain ⟨dir, hdir, hverified⟩ := bind_eq_ok.mp hpoint
  have hdir := present_eq_ok.mp hdir
  obtain ⟨_, hentries, -⟩ := bind_eq_ok.mp hverified
  have hcomplete := pointEntries_complete hentries
  simp only [PointDirectory.complete, Bool.and_eq_true, Option.isNone_iff_eq_none] at hcomplete
  obtain ⟨⟨⟨hmanifest, hdatabase⟩, hdeployment⟩, htemporary⟩ := hcomplete
  obtain ⟨manifest, hmanifest⟩ := Option.isSome_iff_exists.mp hmanifest
  obtain ⟨database, hdatabase⟩ := Option.isSome_iff_exists.mp hdatabase
  obtain ⟨deployment, hdeployment⟩ := Option.isSome_iff_exists.mp hdeployment
  have hfiles : dir.files = filesOf (some manifest) (some database) (some deployment) none := by
    funext file
    cases file
    · exact hmanifest
    · exact hdatabase
    · exact hdeployment
    · exact htemporary
  have h₁ : Removing name (filesOf (some manifest) (some database) (some deployment) none) d₁ d₁ :=
    ⟨rfl, ⟨dir.mtime, by rw [hdir, ← hfiles]⟩, fun _ _ => rfl⟩
  refine performs_then (performs_unlinkPoint .manifest hname hd h₁ rfl ⟨point, hpoint⟩)
    fun _ d₂ h₂ => ?_
  rw [update_manifest] at h₂
  refine performs_then (performs_unlinkPoint .database hname h₂.1 h₂.2 rfl rfl) fun _ d₃ h₃ => ?_
  rw [update_database] at h₃
  refine performs_then (performs_unlinkPoint .deployment hname h₃.1 h₃.2 rfl rfl) fun _ d₄ h₄ => ?_
  rw [update_deployment] at h₄
  exact performs_rmdirPoint hname h₄.1 h₄.2

/-- The loop over the expired points: each is gone, and nothing else has
changed. -/
theorem performs_removeAllExpired {retained : List PointName} {points : List PointName}
    (hretained : ∀ name, Pointed lib d₀ name → name ∈ retained) (hnodup : points.Nodup)
    (hd : Sound lib d₀) (hfine : fine → ∀ name ∈ points, name ∉ retained →
      ∃ point, verifyNamedPoint lib d₀ name = .ok point) :
    Performs lib fine call (removeAllExpired lib retained points)
      (fun _ d => Sound lib d ∧ d.health = d₀.health ∧
        (∀ name ∈ points, name ∉ retained → name ∉ d.points) ∧
          ∀ name, (name ∈ points → name ∈ retained) →
            d.points.lookup name = d₀.points.lookup name)
      (Sound lib) d₀ := by
  induction points generalizing d₀ with
  | nil =>
      exact does_pure ⟨hd, rfl, fun name h => (List.not_mem_nil h).elim, fun _ _ => rfl⟩
  | cons name rest ih =>
      obtain ⟨hnew, hrest⟩ := List.nodup_cons.mp hnodup
      by_cases hname : name ∈ retained
      · have skip : removeAllExpired lib retained (name :: rest) =
            removeAllExpired lib retained rest := by
          show (if name ∉ retained then removeExpired lib name >>= fun _ =>
            removeAllExpired lib retained rest else removeAllExpired lib retained rest) = _
          rw [if_neg (not_not.mpr hname)]
        rw [skip]
        refine does_mono (ih hretained hrest hd fun hf other hother =>
          hfine hf other (List.mem_cons_of_mem _ hother)) (fun _ d h => ?_) fun _ h => h
        obtain ⟨hsound, hhealth, hgone, hkept⟩ := h
        refine ⟨hsound, hhealth, fun other hother hnot => ?_, fun other hother =>
          hkept other fun hmem => hother (List.mem_cons_of_mem _ hmem)⟩
        rcases List.mem_cons.mp hother with rfl | hother
        · exact absurd hname hnot
        · exact hgone other hother hnot
      · have go : removeAllExpired lib retained (name :: rest) =
            removeExpired lib name >>= fun _ => removeAllExpired lib retained rest := by
          show (if name ∉ retained then removeExpired lib name >>= fun _ =>
            removeAllExpired lib retained rest else removeAllExpired lib retained rest) = _
          rw [if_pos hname]
        rw [go]
        refine performs_then (performs_removeExpired (fun h => hname (hretained name h)) hd
          fun hf => hfine hf name List.mem_cons_self hname) fun _ d₁ h₁ => ?_
        obtain ⟨hsound₁, h₁⟩ := h₁
        refine does_mono (ih (fun other h => hretained other ((Pointed.congr h₁.health).mp h))
          hrest hsound₁ fun hf other hother hnot => ?_) (fun _ d h => ?_) fun _ h => h
        · have hne : other ≠ name := fun heq => hnew (heq ▸ hother)
          unfold verifyNamedPoint
          rw [h₁.others other hne]
          exact hfine hf other (List.mem_cons_of_mem _ hother) hnot
        · obtain ⟨hsound, hhealth, hgone, hkept⟩ := h
          refine ⟨hsound, hhealth.trans h₁.health, fun other hother hnot => ?_,
            fun other hother => ?_⟩
          · rcases List.mem_cons.mp hother with rfl | hother
            · rw [← AList.lookup_eq_none, hkept other fun hmem => absurd hmem hnew,
                AList.lookup_eq_none]
              exact h₁.gone
            · exact hgone other hother hnot
          · rw [hkept other fun hmem => hother (List.mem_cons_of_mem _ hmem)]
            exact h₁.others other fun heq => hname (heq ▸ hother (heq ▸ List.mem_cons_self))

end Pointer

section Listing

variable {lib} {d : RecoveryDirectory Bytes}

theorem listed_perm (listing : List EntryName) (d : RecoveryDirectory Bytes) :
    (listed listing d).Perm d.entries := by
  unfold listed
  split
  · next h => exact h
  · exact .refl _

theorem points_of_entries (d : RecoveryDirectory Bytes) :
    d.entries.filterMap (fun
      | .point name => some name
      | _ => none) = d.points.keys := by
  unfold RecoveryDirectory.entries
  simp only [List.filterMap_append, List.filterMap_map]
  have hlock : (if d.lock then [EntryName.lock] else []).filterMap (fun
      | .point name => some name
      | _ => none) = [] := by split <;> rfl
  have hhealth : (if d.health.isSome then [EntryName.health] else []).filterMap (fun
      | .point name => some name
      | _ => none) = [] := by split <;> rfl
  rw [hlock, hhealth]
  simp [Function.comp_def]

/-- The points, each once. -/
theorem newestFirst_perm (listing : List EntryName) (d : RecoveryDirectory Bytes) :
    (newestFirst listing d).Perm d.points.keys := by
  unfold newestFirst
  refine (List.perm_insertionSort _ _).trans ?_
  rw [← points_of_entries d]
  exact (listed_perm listing d).filterMap _

theorem mem_newestFirst {listing : List EntryName} {name : PointName} :
    name ∈ newestFirst listing d ↔ name ∈ d.points :=
  (newestFirst_perm listing d).mem_iff.trans AList.mem_keys.symm

theorem nodup_newestFirst (listing : List EntryName) (d : RecoveryDirectory Bytes) :
    (newestFirst listing d).Nodup :=
  (newestFirst_perm listing d).nodup_iff.mpr d.points.keys_nodup

end Listing

end TonTracker.RecoveryPoint
