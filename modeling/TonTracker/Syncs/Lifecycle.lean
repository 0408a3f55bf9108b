/-
# `Syncs.Lifecycle` — the lifecycle of a sync

What holds of every sync row in every run: a lease exactly while it
runs, a next attempt while it is queued, nothing of either once it has
ended, and one claim for each attempt (`SyncRow.Sound`); at most one
active sync of a case; no change of a row that has ended; and a later
version with each change of status, stage or cancellation flag.  That a
builder is started once for a claim is a matter of the worker's program
(`builderStarts`): the lease token is its own, and it starts one builder.
-/
import TonTracker.Syncs.Steps

namespace TonTracker

open Relational (Table)
open Session (World Run Move Reaches Protocol)
open Session.Prog (all_bindExcept all_tryCatch)
open Session.Protocol (triple_bindExcept triple_mono triple_of_all triple_step triple_tryCatch)

/-! ## One row -/

namespace SyncRow

/-- What a sync row may look like. -/
structure Sound (row : SyncRow) : Prop where
  running : row.state = .running →
    row.leaseToken.isSome = true ∧ row.leaseExpiresAt.isSome = true
  queued : row.state = .queued → row.nextAttemptAt.isSome = true ∧ row.leaseToken = none ∧
    row.leaseExpiresAt = none
  terminal : row.state.active = false → row.completedAt.isSome = true ∧ row.leaseToken = none ∧
    row.leaseExpiresAt = none ∧ row.nextAttemptAt = none
  attempts : row.attemptCount ≤ row.maxAttempts
  /-- One claim for each attempt. -/
  claims : row.claims.length = row.attemptCount

theorem Sound.leased {row : SyncRow} (h : row.Sound) :
    row.state = .running ↔ row.leaseToken.isSome = true ∧ row.leaseExpiresAt.isSome = true := by
  refine ⟨h.running, fun ⟨htoken, _⟩ => ?_⟩
  cases hstate : row.state with
  | running => rfl
  | queued =>
      rw [(h.queued hstate).2.1] at htoken
      cases htoken
  | _ =>
      rw [(h.terminal (hstate ▸ rfl)).2.1] at htoken
      cases htoken

/-- The end of a sync. -/
theorem Sound.ended {row row' : SyncRow} (h : row.Sound) (hstate : row'.state.active = false)
    (hcompleted : row'.completedAt.isSome = true) (htoken : row'.leaseToken = none)
    (hexpiry : row'.leaseExpiresAt = none) (hnext : row'.nextAttemptAt = none)
    (hattempts : row'.attemptCount = row.attemptCount) (hmax : row'.maxAttempts = row.maxAttempts)
    (hclaims : row'.claims = row.claims) : row'.Sound where
  running hrunning := by rw [hrunning] at hstate; cases hstate
  queued hqueued := by rw [hqueued] at hstate; cases hstate
  terminal _ := ⟨hcompleted, htoken, hexpiry, hnext⟩
  attempts := by rw [hattempts, hmax]; exact h.attempts
  claims := by rw [hclaims, hattempts]; exact h.claims

/-- A sync put back into the queue. -/
theorem Sound.requeued {row row' : SyncRow} (h : row.Sound) (hstate : row'.state = .queued)
    (hnext : row'.nextAttemptAt.isSome = true) (htoken : row'.leaseToken = none)
    (hexpiry : row'.leaseExpiresAt = none) (hattempts : row'.attemptCount = row.attemptCount)
    (hmax : row'.maxAttempts = row.maxAttempts) (hclaims : row'.claims = row.claims) :
    row'.Sound where
  running hrunning := by rw [hstate] at hrunning; cases hrunning
  queued _ := ⟨hnext, htoken, hexpiry⟩
  terminal hterminal := by rw [hstate] at hterminal; cases hterminal
  attempts := by rw [hattempts, hmax]; exact h.attempts
  claims := by rw [hclaims, hattempts]; exact h.claims

/-- A sync that goes on running. -/
theorem Sound.runs {row row' : SyncRow} (h : row.Sound) (hstate : row'.state = .running)
    (htoken : row'.leaseToken.isSome = true) (hexpiry : row'.leaseExpiresAt.isSome = true)
    (hattempts : row'.attemptCount = row.attemptCount) (hmax : row'.maxAttempts = row.maxAttempts)
    (hclaims : row'.claims = row.claims) : row'.Sound where
  running _ := ⟨htoken, hexpiry⟩
  queued hqueued := by rw [hstate] at hqueued; cases hqueued
  terminal hterminal := by rw [hstate] at hterminal; cases hterminal
  attempts := by rw [hattempts, hmax]; exact h.attempts
  claims := by rw [hclaims, hattempts]; exact h.claims

theorem AsQueued.sound {row : SyncRow} (h : row.AsQueued) : row.Sound := by
  obtain ⟨plan, caseId, c, publicId, settings, key, fingerprint, message, now, rfl⟩ := h
  exact ⟨fun h => (nomatch h), fun _ => ⟨rfl, rfl, rfl⟩, fun h => (nomatch h), Nat.zero_le _,
    rfl⟩

end SyncRow

namespace SyncWrite

/-- Every update keeps a row sound. -/
theorem apply_sound {w : SyncWrite} {id : Nat} {row row' : SyncRow} (h : row.Sound)
    (happly : w.apply id row = some row') : row'.Sound := by
  cases w with
  | cancel syncId now =>
      simp only [apply, Option.ite_none_right_eq_some] at happly
      rcases cancelled_cases happly.2 with ⟨hqueued, rfl⟩ | ⟨hrunning, -, rfl⟩
      · obtain ⟨-, htoken, hexpiry⟩ := h.queued hqueued
        exact h.ended rfl rfl htoken hexpiry rfl rfl rfl rfl
      · obtain ⟨htoken, hexpiry⟩ := h.running hrunning
        exact h.runs hrunning htoken hexpiry rfl rfl rfl
  | recoverExpired now =>
      rcases recovered_cases happly with ⟨-, -, rfl⟩ | ⟨-, -, -, rfl⟩ | ⟨-, -, rfl⟩ |
        ⟨hqueued, rfl⟩
      · exact h.ended rfl rfl rfl rfl rfl rfl rfl rfl
      · exact h.ended rfl rfl rfl rfl rfl rfl rfl rfl
      · exact h.requeued rfl rfl rfl rfl rfl rfl rfl
      · obtain ⟨-, htoken, hexpiry⟩ := h.queued hqueued
        exact h.ended rfl rfl htoken hexpiry rfl rfl rfl rfl
  | claim syncId token now leaseUntil =>
      simp only [apply, Option.ite_none_right_eq_some, Option.some.injEq, Bool.and_eq_true,
        decide_eq_true_eq] at happly
      obtain ⟨⟨⟨-, hattempts⟩, -⟩, rfl⟩ := happly
      refine ⟨fun _ => ⟨rfl, rfl⟩, by rintro ⟨⟩, by rintro ⟨⟩, hattempts, ?_⟩
      exact List.length_append.trans (congrArg (· + 1) h.claims)
  | advance lease stage progress message now leaseUntil =>
      simp only [apply, Option.ite_none_right_eq_some, Option.some.injEq, Bool.and_eq_true]
        at happly
      obtain ⟨⟨⟨-, howned⟩, -⟩, rfl⟩ := happly
      obtain ⟨hrunning, htoken⟩ := SyncRow.ownedBy_running howned
      exact h.runs hrunning (htoken ▸ rfl) rfl rfl rfl rfl
  | heartbeat lease now leaseUntil =>
      simp only [apply, Option.ite_none_right_eq_some, Option.some.injEq, Bool.and_eq_true]
        at happly
      obtain ⟨⟨-, howned⟩, rfl⟩ := happly
      obtain ⟨hrunning, htoken⟩ := SyncRow.ownedBy_running howned
      exact h.runs hrunning (htoken ▸ rfl) rfl rfl rfl rfl
  | scheduleRetry lease code message now retryAt =>
      simp only [apply, Option.ite_none_right_eq_some, Option.some.injEq] at happly
      obtain ⟨-, rfl⟩ := happly
      exact h.requeued rfl rfl rfl rfl rfl rfl rfl
  | _ =>
      simp only [apply, Option.ite_none_right_eq_some, Option.some.injEq] at happly
      obtain ⟨-, rfl⟩ := happly
      exact h.ended rfl rfl rfl rfl rfl rfl rfl rfl

/-- Every update but the heartbeat raises the version. -/
theorem apply_version {w : SyncWrite} {id : Nat} {row row' : SyncRow}
    (happly : w.apply id row = some row') :
    row.statusVersion < row'.statusVersion ∨
      row'.state = row.state ∧ row'.stage = row.stage ∧
        row'.cancelRequestedAt = row.cancelRequestedAt := by
  cases w with
  | cancel syncId now =>
      simp only [apply, Option.ite_none_right_eq_some] at happly
      rcases cancelled_cases happly.2 with ⟨-, rfl⟩ | ⟨-, -, rfl⟩ <;>
        exact .inl (Nat.lt_succ_self _)
  | recoverExpired now =>
      rcases recovered_cases happly with ⟨-, -, rfl⟩ | ⟨-, -, -, rfl⟩ | ⟨-, -, rfl⟩ | ⟨-, rfl⟩ <;>
        exact .inl (Nat.lt_succ_self _)
  | heartbeat lease now leaseUntil =>
      simp only [apply, Option.ite_none_right_eq_some, Option.some.injEq] at happly
      obtain ⟨-, rfl⟩ := happly
      exact .inr ⟨rfl, rfl, rfl⟩
  | _ =>
      simp only [apply, Option.ite_none_right_eq_some, Option.some.injEq] at happly
      obtain ⟨-, rfl⟩ := happly
      exact .inl (Nat.lt_succ_self _)

end SyncWrite

/-- A run is published as an ended sync. -/
theorem publication_terminal (sha : Sha256) (claimed : ClaimedCaseSync) (run : IngestionRun)
    (now : Instant) : (publication sha claimed run now).state.active = false := by
  change (syncState run.status).1.active = false
  cases run.status <;> rfl

namespace Publication

theorem published_sound {p : Publication} (hp : p.state.active = false) (runId : Nat)
    {row : SyncRow} (h : row.Sound) : (p.published runId row).Sound :=
  h.ended hp rfl rfl rfl rfl rfl rfl rfl

end Publication

/-! ## The table -/

/-- What holds of the syncs of a store. -/
structure SyncsSound (s : Store) : Prop where
  rows : ∀ id row, s.syncs.get? id = some row → row.Sound
  oneActive : ∀ a b ra rb, s.syncs.get? a = some ra → s.syncs.get? b = some rb →
    ra.caseId = rb.caseId → ra.state.active = true → rb.state.active = true → a = b

/-- A row of the table after a commit that was active and is in the same
case before it, or was just inserted where no row of the case is active. -/
theorem active_after {w : Write} {s : Store} {id : Nat} {row' : SyncRow}
    (h : (w.commit s).2.syncs.get? id = some row') (hactive : row'.state.active = true) :
    (∃ row, s.syncs.get? id = some row ∧ row.caseId = row'.caseId ∧ row.state.active = true) ∨
      (w = .insertSync row' ∧ id = s.syncs.nextId ∧
        ∀ a ra, s.syncs.get? a = some ra → ra.caseId = row'.caseId → ra.state.active = false) := by
  rcases Write.syncs_after h with hsame | ⟨hw, hid, hcollides, -⟩ | ⟨v, row, -, hrow, happly⟩ |
    ⟨p, row, -, hrow, hselects, rfl⟩
  · exact .inl ⟨row', hsame, rfl, hactive⟩
  · refine .inr ⟨hw, hid, fun a ra ha hcase => ?_⟩
    unfold Store.syncCollides at hcollides
    rw [Option.isSome_eq_false_iff, Option.isNone_iff_eq_none] at hcollides
    have free := s.syncs.find?_eq_none.mp hcollides a ra ha
    simp only [Bool.or_eq_false_iff, Bool.and_eq_false_iff, hactive] at free
    rcases free.2 with (hcase' | ractive) | h
    · exact absurd hcase (of_decide_eq_false hcase')
    · exact ractive
    · cases h
  · obtain ⟨hactive', hfixed⟩ := SyncWrite.apply_active happly
    exact .inl ⟨row, hrow, (congrArg (·.caseId) hfixed).symm, hactive'⟩
  · have hrunning := (SyncRow.ownedBy_running (Publication.selects_iff.mp hselects).2.2.1).1
    exact .inl ⟨row, hrow, rfl, hrunning ▸ rfl⟩

theorem SyncsSound.commit {w : Write} {s : Store} (hw : w.WellFormed) (h : SyncsSound s) :
    SyncsSound (w.commit s).2 := by
  constructor
  · intro id row' hget
    rcases Write.syncs_after hget with hsame | ⟨rfl, -, -, -⟩ | ⟨v, row, -, hrow, happly⟩ |
      ⟨p, row, rfl, hrow, hselects, rfl⟩
    · exact h.rows id row' hsame
    · exact SyncRow.AsQueued.sound hw
    · exact SyncWrite.apply_sound (h.rows id row hrow) happly
    · obtain ⟨sha, claimed, run, now, rfl⟩ := hw
      exact Publication.published_sound (publication_terminal sha claimed run now) _
        (h.rows id row hrow)
  · intro a b ra rb ha hb hcase activeA activeB
    rcases active_after ha activeA with ⟨ra₀, ha₀, caseA, activeA₀⟩ | ⟨wA, idA, freeA⟩ <;>
      rcases active_after hb activeB with ⟨rb₀, hb₀, caseB, activeB₀⟩ | ⟨wB, idB, freeB⟩
    · exact h.oneActive a b ra₀ rb₀ ha₀ hb₀ (caseA.trans (hcase.trans caseB.symm)) activeA₀
        activeB₀
    · exact absurd activeA₀ (freeB a ra₀ ha₀ (caseA.trans hcase) ▸ Bool.false_ne_true)
    · exact absurd activeB₀ (freeA b rb₀ hb₀ (caseB.trans hcase.symm) ▸ Bool.false_ne_true)
    · exact idA.trans idB.symm

theorem syncsSound_start : SyncsSound Store.empty :=
  ⟨fun _ _ h => (nomatch h), fun _ _ _ _ h => nomatch h⟩

/-- Of every reachable store. -/
theorem syncsSound_of_reaches {sha : Sha256} {world : World (caseSystem sha)}
    (reached : Reaches start world) : SyncsSound world.state :=
  (wellFormed_run reached).inv SyncsSound (fun _ _ _ hw h => h.commit hw.2) syncsSound_start

/-- A row before and after a commit: the version grows with every change of
status, stage or cancellation flag. -/
theorem sync_version {w : Write} {s : Store} {id : Nat} {row row' : SyncRow}
    (h : s.syncs.get? id = some row) (h' : (w.commit s).2.syncs.get? id = some row') :
    row.statusVersion < row'.statusVersion ∨
      row'.state = row.state ∧ row'.stage = row.stage ∧
        row'.cancelRequestedAt = row.cancelRequestedAt := by
  rcases Write.syncs_after h' with hsame | ⟨-, hid, -, -⟩ | ⟨v, row₀, -, h₀, happly⟩ |
    ⟨p, row₀, -, h₀, -, rfl⟩
  · rw [h] at hsame
    cases hsame
    exact .inr ⟨rfl, rfl, rfl⟩
  · rw [hid, Table.get?_nextId] at h
    cases h
  · rw [h] at h₀
    cases h₀
    exact SyncWrite.apply_version happly
  · rw [h] at h₀
    cases h₀
    exact .inl (Nat.lt_succ_self _)

/-! ## Builder threads -/

/-- Only the start of a builder is recorded as one. -/
theorem commit_builderStarts {w : Write} (h : ∀ token, w ≠ .startBuilder token) (s : Store) :
    (w.commit s).2.builderStarts = s.builderStarts := by
  cases w with
  | startBuilder token => exact absurd rfl (h token)
  | insertSync row =>
      rcases Write.insertSync_cases row s with hsame | ⟨-, -, hinserted⟩
      · rw [hsame]
      · rw [hinserted]
        rfl
  | publish p =>
      rcases Write.publish_cases p s with hsame | ⟨-, -, -, -, hpublished⟩
      · rw [hsame]
      · rw [hpublished]
        rfl
  | createCase row => simp only [Write.commit]; split <;> rfl
  | reopenCase caseId now => simp only [Write.commit, Store.touch]; split <;> rfl
  | updateMetadata target expected change now =>
      simp only [Write.commit, Store.touchIf]; split <;> rfl
  | archiveCase target now => simp only [Write.commit, Store.touchIf]; split <;> rfl
  | restoreCase target now => simp only [Write.commit, Store.touchIf]; split <;> rfl
  | deleteCase target now => simp only [Write.commit]; split <;> rfl
  | sync v => rfl
  | evidence v => simp only [Write.commit]; split <;> rfl

/-- A session starts a builder under its own token, and one only. -/
def builderStarts : Protocol caseMachine where
  inv := fun s => s.builderStarts.Nodup
  allowed := fun _ _ _ => True
  may := fun sid w s => ∀ token, w = .startBuilder token → token = sid ∧ token ∉ s.builderStarts
  preserved := by
    intro sid w s hinv _ hmay
    by_cases h : ∃ token, w = .startBuilder token
    · obtain ⟨token, rfl⟩ := h
      exact List.nodup_append.mpr ⟨hinv, List.nodup_singleton token, fun a ha b hb heq =>
        (hmay token rfl).2 (List.mem_singleton.mp hb ▸ heq ▸ ha)⟩
    · have same : (Write.commit w s).2.builderStarts = s.builderStarts :=
        commit_builderStarts (fun token heq => h ⟨token, heq⟩) s
      change (Write.commit w s).2.builderStarts.Nodup
      exact same ▸ hinv

/-- The session has started no builder. -/
def NoBuilder (sid : Nat) (s : Store) : Prop := sid ∉ s.builderStarts

/-- A write that starts no builder. -/
def Silent (w : Write) : Prop := ∀ token, w ≠ .startBuilder token

theorem Silent.keeps {w : Write} (hw : Silent w) {sid : Nat} {s : Store} (h : NoBuilder sid s) :
    NoBuilder sid (w.commit s).2 := by
  unfold NoBuilder
  rw [commit_builderStarts hw]
  exact h

theorem noBuilder_stable (sid : Nat) : builderStarts.Stable sid (NoBuilder sid) := by
  intro s other w hother _ _ hmay h
  by_cases hw : ∃ token, w = .startBuilder token
  · obtain ⟨token, rfl⟩ := hw
    intro hmem
    rcases List.mem_append.mp hmem with hmem | hmem
    · exact h hmem
    · exact hother ((hmay token rfl).1.symm.trans (List.mem_singleton.mp hmem).symm)
  · exact Silent.keeps (fun token heq => hw ⟨token, heq⟩) h

section Worker

variable {sid : Nat}

theorem triple_silent {α : Type} {p : Job α} (hp : p.All builderStarts.inv Silent) :
    builderStarts.Triple sid (NoBuilder sid) p fun _ => NoBuilder sid :=
  triple_of_all (noBuilder_stable sid) (Session.Prog.all_mono (fun _ hw _ _ h =>
    ⟨fun token heq => absurd heq (hw token), fun _ => hw.keeps h⟩) hp)

theorem safe_silent {α : Type} {p : Job α} (hp : p.All builderStarts.inv Silent) :
    builderStarts.Safe sid p :=
  Session.Protocol.safe_of_all (Session.Prog.all_mono (fun _ hw _ _ token heq =>
    absurd heq (hw token)) hp)

theorem fenced_silent (v : SyncWrite) (_ : v.Fenced sid) : Silent (.sync v) :=
  fun _ heq => nomatch heq

/-- The builder is started, and from then on the session starts none. -/
theorem triple_buildWithHeartbeats {claimed : ClaimedCaseSync} (h : claimed.lease.token = sid)
    (settings : RuntimeSettings) :
    builderStarts.Triple sid (NoBuilder sid) (buildWithHeartbeats claimed settings).run
      fun _ _ => True := by
  refine triple_step (triple_askFlag (noBuilder_stable sid) _) (fun _ _ => trivial) fun stop => ?_
  split
  · exact triple_mono (fun _ _ => trivial) (fun _ _ h => h) (safe_throw _)
  · rw [h]
    have started : builderStarts.Triple sid (NoBuilder sid)
        (commitR (ε := SyncRaised) (.startBuilder sid)).run fun _ _ => True :=
      Session.Protocol.triple_bind
        (Session.Protocol.triple_write (noBuilder_stable sid) fun s _ hfree =>
          ⟨fun token heq => by cases heq; exact ⟨rfl, hfree⟩, fun _ => trivial⟩)
        fun _ => Session.Protocol.triple_done fun _ h => h
    refine triple_step started (fun _ h => h) fun _ => safe_silent ?_
    refine all_bindExcept (all_askR _) fun answers => ?_
    refine all_bindExcept (all_askR _) fun rounds => ?_
    refine all_bindExcept (all_watchBuilder fenced_silent h rounds false) fun watched => ?_
    obtain ⟨owned, seen⟩ := watched
    refine all_bindExcept (all_askFlag _) fun stop => ?_
    split <;> trivial

theorem triple_executeWithSettings {claimed : ClaimedCaseSync} (h : claimed.lease.token = sid)
    (sha : Sha256) (settings : RuntimeSettings) :
    builderStarts.Triple sid (NoBuilder sid) (executeWithSettings sha claimed settings).run
      fun _ _ => True := by
  have publishes : ∀ run now, Silent (.publish (publication sha claimed run now)) :=
    fun _ _ _ heq => nomatch heq
  refine triple_step (triple_askFlag (noBuilder_stable sid) _) (fun _ _ => trivial) fun stop => ?_
  split
  · exact triple_mono (fun _ _ => trivial) (fun _ _ h => h) (safe_pure _)
  · refine triple_step (triple_silent (all_advanceSync fenced_silent h _ _ _))
      (fun _ _ => trivial) fun moved => ?_
    split
    · refine triple_step (C := fun _ => True) (triple_tryCatch (C := fun _ _ => True) ?_
        fun raised => ?_) (fun _ h => h) fun built => ?_
      · refine triple_mono (fun _ h => h) ?_ (triple_step (B := fun _ => True)
          (triple_buildWithHeartbeats h settings) (fun _ h => h) fun _ => safe_pure _)
        rintro (raised | value) s _ <;> trivial
      · cases raised with
        | scopeMismatch message =>
            exact safe_silent (all_bindExcept (all_failWithoutRun fenced_silent h _ _ _)
              fun _ => trivial)
        | valueError message =>
            exact safe_silent (all_bindExcept (all_failWithoutRun fenced_silent h _ _ _)
              fun _ => trivial)
        | stopRequested => exact safe_pure _
        | _ => exact safe_throw _
      · refine safe_silent ?_
        cases built with
        | none => trivial
        | some built =>
            obtain ⟨run, owned, seen⟩ := built
            have finish : ∀ cancelled : Bool, (if cancelled = true then
                finishCancelledSync claimed.lease else finishRun sha claimed run).run.All
                  builderStarts.inv Silent := by
              intro cancelled
              split
              · exact all_finishCancelledSync fenced_silent h
              · exact all_finishRun fenced_silent h sha run (publishes run)
            dsimp only
            split
            · split
              · exact all_bindExcept trivial finish
              · exact all_bindExcept (all_syncCancelRequested _) finish
            · trivial
    · exact triple_mono (fun _ _ => trivial) (fun _ _ h => h) (safe_pure _)

theorem triple_executeClaimedSync {claimed : ClaimedCaseSync} (h : claimed.lease.token = sid)
    (sha : Sha256) :
    builderStarts.Triple sid (NoBuilder sid) (executeClaimedSync sha claimed).run
      fun _ _ => True := by
  refine triple_step (triple_silent (all_tryCatch ?_ fun raised => ?_)) (fun _ _ => trivial)
    fun settings => ?_
  · exact all_bindExcept (all_validatedSettings sha claimed) fun _ => trivial
  · cases raised with
    | runtimeConflict message =>
        exact all_bindExcept (all_failWithoutRun fenced_silent h _ _ _) fun _ => trivial
    | _ => trivial
  · cases settings with
    | none => exact triple_mono (fun _ _ => trivial) (fun _ _ h => h) (safe_pure _)
    | some settings => exact triple_executeWithSettings h sha settings

end Worker

theorem builderStarts_program (sha : Sha256) (sid : Nat) (entry : Entry) :
    builderStarts.Triple sid (NoBuilder sid) (program sha sid entry) fun _ _ => True := by
  refine @triple_program builderStarts sha NoBuilder ?_ ?_ ?_ sid entry
  · intro sid w s _ hw token heq
    subst heq
    cases hw
  · intro sid
    refine triple_runSyncOnce (C := fun _ => NoBuilder sid) (noBuilder_stable sid)
      (fun _ _ => trivial) (fun _ _ _ => trivial) ?_ ?_ (fun _ => noBuilder_stable sid) ?_ ?_
    · intro now s _ h
      have silent : Silent (.sync (.recoverExpired now)) := fun _ heq => nomatch heq
      exact ⟨fun token heq => absurd heq (silent token), fun _ => silent.keeps h⟩
    · refine triple_mono (fun _ h => h) ?_ (triple_silent (all_claimNextSync
        (fun _ _ _ _ heq => nomatch heq) fun _ _ _ heq => nomatch heq))
      rintro (raised | (_ | claimed)) s h
      · trivial
      · trivial
      · exact h
    · exact fun claimed htoken => triple_executeClaimedSync htoken sha
    · intro claimed code message htoken
      exact safe_silent (all_failWithoutRun fenced_silent htoken code message false)
  · intro sid
    exact evidencePermits_of (A := fun _ _ _ => True) (fun _ _ _ _ _ heq => nomatch heq)
      (fun _ _ _ _ _ _ _ _ heq => nomatch heq) (fun _ _ => Session.Protocol.stable_true)
      (fun _ _ _ _ _ _ => trivial) fun _ _ _ _ _ _ _ _ heq => nomatch heq

/-- In every reachable store no token has started two builders. -/
theorem builderStarts_nodup {sha : Sha256} {world : World (caseSystem sha)}
    (reached : Reaches start world) : world.state.builderStarts.Nodup := by
  have covers : builderStarts.Covers NoBuilder (start : World (caseSystem sha)) :=
    Session.Protocol.covers_start List.nodup_nil fun _ h => nomatch h
  exact (covers.run noBuilder_stable (builderStarts_program sha) reached).inv

/-! ## Every run -/

/-- The builders started under the claims of a sync. -/
def Store.buildersOf (s : Store) (row : SyncRow) : List Token :=
  s.builderStarts.filter row.claims.contains

/-- Every reachable sync row is sound, with no more builders than attempts;
a case has at most one active sync; and a commit leaves an ended row as it
is, and raises the version of a row whose status, stage or cancellation
flag it changes. -/
theorem sync_lifecycle {sha : Sha256} {world : World (caseSystem sha)}
    (reached : Reaches start world) :
    (∀ id row, world.state.syncs.get? id = some row →
      row.Sound ∧ (row.state = .running ↔
        row.leaseToken.isSome = true ∧ row.leaseExpiresAt.isSome = true) ∧
        (world.state.buildersOf row).length ≤ row.maxAttempts) ∧
      (∀ a b ra rb, world.state.syncs.get? a = some ra → world.state.syncs.get? b = some rb →
        ra.caseId = rb.caseId → ra.state.active = true → rb.state.active = true → a = b) ∧
      ∀ move id row row', world.state.syncs.get? id = some row →
        (world.step move).state.syncs.get? id = some row' →
        (row.state.active = false → row' = row) ∧
          ((row'.state, row'.stage, row'.cancelRequestedAt) ≠
              (row.state, row.stage, row.cancelRequestedAt) →
            row.statusVersion < row'.statusVersion) := by
  have sound := syncsSound_of_reaches reached
  refine ⟨fun id row h => ?_, sound.oneActive, fun move id row row' h h' => ?_⟩
  · have hrow := sound.rows id row h
    refine ⟨hrow, hrow.leased, ?_⟩
    have builders : (world.state.buildersOf row).Subperm row.claims :=
      List.subperm_of_subset ((builderStarts_nodup reached).filter _) fun token htoken =>
        List.elem_iff.mp (List.mem_filter.mp htoken).2
    calc (world.state.buildersOf row).length
        ≤ row.claims.length := builders.length_le
      _ = row.attemptCount := hrow.claims
      _ ≤ row.maxAttempts := hrow.attempts
  · rw [World.state_step] at h'
    split at h'
    next sid w hcommit =>
      refine ⟨(Write.syncs_step h h').2, fun hchanged => ?_⟩
      rcases sync_version h h' with hlater | ⟨hstate, hstage, hcancel⟩
      · exact hlater
      · rw [hstate, hstage, hcancel] at hchanged
        exact absurd rfl hchanged
    next =>
      rw [h] at h'
      cases h'
      exact ⟨fun _ => rfl, fun hchanged => absurd rfl hchanged⟩

/-- The sync of the sample case was published by its first claim. -/
theorem sync_lifecycle_sample :
    ∃ row, (sampleWorld sampleMoves).state.syncs.get? 1 = some row ∧ row.state = .succeeded ∧
      row.Sound ∧ (sampleWorld sampleMoves).state.buildersOf row = [2] ∧
      ((sampleWorld sampleMoves).state.buildersOf row).length ≤ row.maxAttempts := by
  have published : ((sampleWorld sampleMoves).state.syncs.get? 1).map
      (fun row => (row.state, (sampleWorld sampleMoves).state.buildersOf row)) =
        some (.succeeded, [2]) := by decide +kernel
  obtain ⟨row, hrow, hpublished⟩ := Option.map_eq_some_iff.mp published
  obtain ⟨hstate, hbuilders⟩ := Prod.mk.inj hpublished
  obtain ⟨hsound, -, hstarts⟩ := (sync_lifecycle (sampleWorld_reached sampleMoves)).1 1 row hrow
  exact ⟨row, hrow, hstate, hsound, hbuilders, hstarts⟩

end TonTracker
