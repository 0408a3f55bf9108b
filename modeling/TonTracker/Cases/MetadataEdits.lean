/-
# `Cases.MetadataEdits` — concurrent changes of a case's label and note

`update_case_metadata` names the version it has seen, compares it in the
statement that writes, and reads the case again for its response.  In a
run with its history every update that reports success is one commit at
the version it named, and the commits to a case name ever larger versions.
An update that is refused has changed nothing, unless the case was
archived or deleted between its commit and the reading of its response.
-/
import TonTracker.Cases.Lifecycle

namespace TonTracker

open Relational (Table)
open Session (Event Move Prog Recorded Status World commitsOf)
open Session.Prog (once_bind once_bindExcept once_of_replies replies_bind replies_bindExcept)

/-! ## What an edit commits -/

/-- What `update_case_metadata` may change. -/
def CaseRow.metadata (c : CaseRow) : Nat × Option Text × Option Text :=
  (c.metadataVersion, c.label, c.note)

/-- The case an edit finds: not archived, at the version it names. -/
structure CaseRow.EditedBy (c : CaseRow) (target : CaseTarget) (expected : Nat) (s : Store) :
    Prop where
  stored : s.cases.get? target.caseId = some c
  owner : c.ownerScopeId = target.ownerScopeId
  publicId : c.publicId = target.publicId
  active : c.archivedAt = none
  version : c.metadataVersion = expected

/-- The row an edit leaves. -/
def CaseRow.edited (c : CaseRow) (change : MetadataChange) (now : Instant) : CaseRow :=
  { c with
    metadataVersion := c.metadataVersion + 1
    updatedAt := now
    label := change.label.getD c.label
    note := change.note.getD c.note }

/-- The case and the version of an edit that takes effect. -/
def Write.edit? (w : Write) (s : Store) : Option (Nat × Nat) :=
  match w with
  | .updateMetadata target expected _ _ =>
      if (w.commit s).1 = .rows 1 then some (target.caseId, expected) else none
  | _ => none

section Edits

variable {s : Store} {target : CaseTarget} {expected : Nat} {change : MetadataChange}
  {now : Instant}

/-- An edit either finds its case at the version it names, or does nothing. -/
theorem updateMetadata_cases (target : CaseTarget) (expected : Nat) (change : MetadataChange)
    (now : Instant) (s : Store) :
    (∃ c : CaseRow, c.EditedBy target expected s ∧
      (Write.updateMetadata target expected change now).commit s =
        (.rows 1, s.touched target.caseId true now fun c => c.edited change now)) ∨
      (Write.updateMetadata target expected change now).commit s = (.rows 0, s) := by
  simp only [Write.commit, Store.touchIf]
  split
  case isTrue h =>
    obtain ⟨c, hc, hcondition⟩ := (Option.any_eq_true _ _).mp h
    simp only [CaseTarget.selects, Bool.and_eq_true, decide_eq_true_eq,
      Option.isNone_iff_eq_none] at hcondition
    obtain ⟨⟨⟨⟨-, howner⟩, hpublicId⟩, hactive⟩, hversion⟩ := hcondition
    exact .inl ⟨c, ⟨hc, howner, hpublicId, hactive, hversion⟩, rfl⟩
  case isFalse => exact .inr rfl

theorem edit?_eq_some {w : Write} {caseId version : Nat} :
    w.edit? s = some (caseId, version) ↔ ∃ target change now, ∃ c : CaseRow,
      w = .updateMetadata target version change now ∧ target.caseId = caseId ∧
        c.EditedBy target version s ∧
        (w.commit s).2 = s.touched caseId true now fun c => c.edited change now := by
  constructor
  · intro h
    cases w with
    | updateMetadata target expected change now =>
        unfold Write.edit? at h
        obtain ⟨hrows, heq⟩ := Option.ite_none_right_eq_some.mp h
        cases heq
        rcases updateMetadata_cases target version change now s with ⟨c, hc, hcommit⟩ | hcommit
        · exact ⟨target, change, now, c, rfl, rfl, hc, congrArg Prod.snd hcommit⟩
        · rw [hcommit] at hrows
          cases hrows
    | _ => cases h
  · rintro ⟨target, change, now, c, rfl, rfl, hc, -⟩
    refine if_pos ?_
    simp only [Write.commit, Store.touchIf]
    rw [if_pos]
    simp [hc.stored, CaseTarget.selects, hc.owner, hc.publicId, hc.active, hc.version]

theorem get?_touched (caseId : Nat) (visible : Bool) (f : CaseRow → CaseRow) (id : Nat) :
    (s.touched caseId visible now f).cases.get? id =
      (s.cases.get? id).map fun c => if id = caseId then f c else c := by
  show (s.cases.update _).get? id = _
  rw [Table.get?_update]
  refine congrArg (fun f => (s.cases.get? id).map f) (funext fun c => ?_)
  split <;> rfl

theorem stored_touched {caseId : Nat} {c : CaseRow} (hc : s.cases.get? caseId = some c)
    (visible : Bool) (f : CaseRow → CaseRow) :
    (s.touched caseId visible now f).cases.get? caseId = some (f c) := by
  rw [get?_touched, hc, Option.map_some, if_pos rfl]

/-- The case that a write archives or deletes. -/
def Write.removes? (w : Write) (s : Store) : Option Nat :=
  match w with
  | .archiveCase target _ => if (w.commit s).1 = .rows 1 then some target.caseId else none
  | .deleteCase target _ => if (w.commit s).1 = .rows 1 then some target.caseId else none
  | _ => none

/-- What a commit makes of the row of a case. -/
inductive RowStep (w : Write) (s : Store) (id : Nat) (c : CaseRow) : Option CaseRow → Prop
  | kept (c' : CaseRow) (hfixed : c'.fixed = c.fixed) (hmetadata : c'.metadata = c.metadata)
      (hactive : c.archivedAt = none → c'.archivedAt = none) : RowStep w s id c (some c')
  | edited (change : MetadataChange) (now : Instant)
      (hedit : w.edit? s = some (id, c.metadataVersion)) (hactive : c.archivedAt = none) :
      RowStep w s id c (some (c.edited change now))
  | archived (c' : CaseRow) (hremoves : w.removes? s = some id)
      (hmetadata : c'.metadata = c.metadata) : RowStep w s id c (some c')
  | deleted (target : CaseTarget) (now : Instant) (hw : w = .deleteCase target now)
      (hid : target.caseId = id) (hremoves : w.removes? s = some id) : RowStep w s id c none

theorem RowStep.of_update {w : Write} {id : Nat} {c : CaseRow} (hc : s.cases.get? id = some c)
    {cases' : Table CaseRow} {caseId : Nat} (f : CaseRow → CaseRow)
    (hcases : cases' = s.cases.update fun id c => if id = caseId then some (f c) else none)
    (hfixed : ∀ c, (f c).fixed = c.fixed) (hmetadata : ∀ c, (f c).metadata = c.metadata)
    (hactive : ∀ c, c.archivedAt = none → (f c).archivedAt = none) :
    RowStep w s id c (cases'.get? id) := by
  rw [hcases, Table.get?_update, hc, Option.map_some]
  split
  · exact .kept _ (hfixed c) (hmetadata c) (hactive c)
  · exact .kept _ rfl rfl fun h => h

theorem commit_rowStep (w : Write) {id : Nat} {c : CaseRow} (hc : s.cases.get? id = some c) :
    RowStep w s id c ((w.commit s).2.cases.get? id) := by
  have same : RowStep w s id c (s.cases.get? id) := hc.symm ▸ .kept c rfl rfl fun h => h
  cases w with
  | createCase row =>
      simp only [Write.commit]
      split
      · exact same
      · show RowStep _ s id c ((s.cases.insert row).get? id)
        rw [Table.get?_insert, if_neg (Nat.ne_of_lt (s.cases.lt_nextId hc))]
        exact same
  | reopenCase caseId now =>
      simp only [Write.commit, Store.touch]
      split
      · exact .of_update hc (fun c => { c with archivedAt := none, updatedAt := now }) rfl
          (fun _ => rfl) (fun _ => rfl) fun _ _ => rfl
      · exact same
  | updateMetadata target expected change now =>
      rcases updateMetadata_cases target expected change now s with ⟨c₁, hc₁, hcommit⟩ | hcommit
      · rw [hcommit, get?_touched, hc, Option.map_some]
        split
        case isTrue hid =>
          subst hid
          cases hc.symm.trans hc₁.stored
          refine .edited change now (edit?_eq_some.mpr ⟨target, change, now, c, ?_, rfl, ?_,
            congrArg Prod.snd hcommit⟩) hc₁.active
          · rw [hc₁.version]
          · rw [hc₁.version]
            exact hc₁
        case isFalse => exact .kept c rfl rfl fun h => h
      · rw [hcommit]
        exact same
  | archiveCase target now =>
      cases hrows : (s.cases.get? target.caseId).any (fun c =>
          target.selects target.caseId c && c.archivedAt.isNone && !s.busy target.caseId) with
      | false =>
          simp only [Write.commit, Store.touchIf, hrows, Bool.false_eq_true, if_false]
          exact same
      | true =>
          have hremoves : (Write.archiveCase target now).removes? s = some target.caseId := by
            simp [Write.removes?, Write.commit, Store.touchIf, hrows]
          simp only [Write.commit, Store.touchIf, hrows, if_true]
          rw [get?_touched, hc, Option.map_some]
          split
          case isTrue hid => exact .archived _ (hid ▸ hremoves) rfl
          case isFalse => exact .kept c rfl rfl fun h => h
  | restoreCase target now =>
      simp only [Write.commit, Store.touchIf]
      split
      · exact .of_update hc (fun c => { c with archivedAt := none, updatedAt := now }) rfl
          (fun _ => rfl) (fun _ => rfl) fun _ _ => rfl
      · exact same
  | deleteCase target now =>
      cases hrows : (s.cases.get? target.caseId).any (fun c =>
          c.ownerScopeId = target.ownerScopeId && !s.busy target.caseId) with
      | false =>
          simp only [Write.commit, hrows, Bool.false_eq_true, if_false]
          exact same
      | true =>
          have hremoves : (Write.deleteCase target now).removes? s = some target.caseId := by
            simp [Write.removes?, Write.commit, hrows]
          simp only [Write.commit, hrows, if_true]
          show RowStep _ s id c ((s.cases.delete fun id _ => id = target.caseId).get? id)
          rw [Table.get?_delete, hc]
          by_cases hid : id = target.caseId
          · rw [Option.filter_some, if_neg (by simp [hid])]
            exact .deleted target now rfl hid.symm (hid ▸ hremoves)
          · rw [Option.filter_some, if_pos (by simp [hid])]
            exact .kept c rfl rfl fun h => h
  | insertSync row =>
      rcases Write.insertSync_cases row s with hsame | ⟨-, -, hinserted⟩
      · rw [hsame]
        exact same
      · rw [hinserted]
        exact .of_update hc (fun c => { c with updatedAt := row.createdAt }) rfl (fun _ => rfl)
            (fun _ => rfl) fun _ h => h
  | sync v => exact same
  | publish p =>
      rcases Write.publish_cases p s with hsame | ⟨-, -, -, -, hpublished⟩
      · rw [hsame]
        exact same
      · rw [hpublished]
        exact .of_update hc (fun c => { c with updatedAt := p.now }) rfl (fun _ => rfl)
            (fun _ => rfl) fun _ h => h
  | evidence v =>
      simp only [Write.commit]
      split <;> exact same
  | startBuilder token => exact same

end Edits

/-! ## The program of an update -/

section Program

variable {B : Store → Prop}

/-- A case is read, or is not there. -/
theorem replies_requiredCase {owner : Text} {publicId : Uuid}
    {r : Except ServiceError (Nat × CaseRow) → Prop} (hok : ∀ found, r (.ok found))
    (hnone : ∀ s, B s → s.caseByPublicId? owner publicId = none → r (.error .notFound))
    (hstorage : r (.error .storage)) : (requiredCase owner publicId).run.Replies B r := by
  refine replies_bindExcept (q := fun found? => found? = none → r (.error .notFound))
    (replies_select (fun s hs => hnone s hs) hstorage) fun found? hfound => ?_
  cases found? with
  | none => exact hfound rfl
  | some found => exact hok found

/-- A case that is there is read. -/
theorem caseByPublicId?_of_stored {s : Store} {id : Nat} {c : CaseRow}
    (hc : s.cases.get? id = some c) (hactive : c.archivedAt = none) :
    s.caseByPublicId? c.ownerScopeId c.publicId ≠ none := by
  intro h
  have := s.cases.find?_eq_none.mp h id c hc
  simp [hactive] at this

/-- The write of an update. -/
def EditOf (owner : Text) (publicId : Uuid) (expected : Nat) (change : MetadataChange)
    (w : Write) : Prop :=
  ∃ caseId now, w = .updateMetadata ⟨caseId, owner, publicId⟩ expected change now

/-- After an edit that took effect its case is there to be read again. -/
def Refreshable : (w : Write) → WriteResult → Store → Prop
  | .updateMetadata target _ _ _, result, s => result = .rows 1 →
      ∃ c, s.cases.get? target.caseId = some c ∧ c.ownerScopeId = target.ownerScopeId ∧
        c.publicId = target.publicId ∧ c.archivedAt = none
  | _, _, _ => True

def Refused (reply : Reply) : Prop := ∃ error, reply = .refused error

/-- What an update replies once it has committed. -/
def RepliesTo (_ : Write) (result : WriteResult) (reply : Reply) : Prop :=
  if result = .rows 1 then reply = .done ∨ reply = .refused .storage else Refused reply

section Once

variable {W : Write → Prop} {A : Write → WriteResult → Store → Prop}

/-- A transaction, which storage may refuse before it commits. -/
theorem once_transact {w : Write} {q : Except ServiceError WriteResult → Prop} (hw : W w)
    (hstorage : q (.error .storage)) :
    (transact w).run.Once q W A fun _ result reply => reply = .ok result := by
  refine once_bindExcept (q := fun _ => True) (fun _ => trivial) fun fails _ => ?_
  split
  · exact hstorage
  · exact ⟨hw, fun _ => rfl⟩

end Once

/-- What follows a transaction that should have changed one row. -/
theorem replies_ifChanged {first second : Request Unit} {result : WriteResult}
    {r : Except ServiceError Unit → Prop} (hrows : result = .rows 1 → first.run.Replies B r)
    (hother : result ≠ .rows 1 → second.run.Replies B r) :
    (match result with
      | .rows 1 => first
      | _ => second).run.Replies B r := by
  split
  · exact hrows rfl
  case h_2 h => exact hother h

/-- An update commits its edit, reads its case again, and replies. -/
theorem once_updateCaseMetadata (sha : Sha256) (sid : Nat) (owner : Text) (publicId : Uuid)
    (expected : Nat) (change : MetadataChange) :
    (program sha sid (.updateCaseMetadata owner publicId expected change)).Once Refused
      (EditOf owner publicId expected change) Refreshable RepliesTo := by
  let refused : Except ServiceError Unit → Prop := fun result => ∃ error, result = .error error
  let replies : Write → WriteResult → Except ServiceError Unit → Prop := fun _ result reply =>
    if result = .rows 1 then reply = .ok () ∨ reply = .error .storage else refused reply
  have inner : (updateCaseMetadata owner publicId expected change).run.Once refused
      (EditOf owner publicId expected change) Refreshable replies := by
    refine once_bindExcept (q := fun _ => True) (replies_requiredCase (fun _ => trivial)
      (fun _ _ _ => ⟨_, rfl⟩) ⟨_, rfl⟩) fun found _ => ?_
    obtain ⟨caseId, c⟩ := found
    refine once_bindExcept (q := fun _ => True) (fun _ => trivial) fun tick _ => ?_
    refine once_bind (once_transact (q := fun result => ∃ error, result = .error error)
      ⟨caseId, tick.now, rfl⟩ ⟨_, rfl⟩) ?_ ?_
    · rintro value ⟨error, rfl⟩
      exact ⟨error, rfl⟩
    · rintro w result value ⟨caseId', now, rfl⟩ rfl
      refine replies_ifChanged (fun hrows => ?_) fun hrows => ?_
      · -- the edit took effect, and its case is read again
        have answer : ∀ reply, reply = .ok () ∨ reply = .error .storage →
            replies (.updateMetadata ⟨caseId', owner, publicId⟩ expected change now) result reply :=
          fun reply h => by
            simp only [replies]
            rwa [if_pos hrows]
        refine replies_bindExcept (q := fun _ => True) (replies_requiredCase (fun _ => trivial)
          (fun s hs hnone => ?_) (answer _ (.inr rfl))) fun _ _ => answer _ (.inl rfl)
        obtain ⟨c', hc', rfl, rfl, hactive⟩ := hs hrows
        exact absurd hnone (caseByPublicId?_of_stored hc' hactive)
      · have refuse : ∀ error, replies (.updateMetadata ⟨caseId', owner, publicId⟩ expected change
            now) result (.error error) := fun error => by
          simp only [replies]
          rw [if_neg hrows]
          exact ⟨error, rfl⟩
        exact replies_bindExcept (q := fun _ => True) (replies_requiredCase (fun _ => trivial)
          (fun _ _ _ => refuse _) (refuse _)) fun _ _ => refuse _
  refine once_bind inner ?_ ?_
  · rintro value ⟨error, rfl⟩
    exact ⟨error, rfl⟩
  · intro w result value _ hvalue
    have hreply : RepliesTo w result (match value with
        | .ok _ => .done
        | .error error => .refused error) := by
      unfold RepliesTo
      simp only [replies] at hvalue
      split at hvalue
      · rw [if_pos ‹_›]
        rcases hvalue with rfl | rfl
        · exact .inl rfl
        · exact .inr rfl
      · rw [if_neg ‹_›]
        obtain ⟨error, rfl⟩ := hvalue
        exact ⟨error, rfl⟩
    cases value with
    | ok value => exact hreply
    | error error => exact hreply

end Program

/-! ## Runs -/

section Runs

variable {sha : Sha256} {P : List (Event (caseSystem sha)) → World (caseSystem sha) →
  Move (caseSystem sha) → Prop} {history : List (Event (caseSystem sha))}
  {world : World (caseSystem sha)}

/-- No case is archived or deleted while an update of it that took effect
has yet to reply. -/
def Undisturbed (history : List (Event (caseSystem sha))) (world : World (caseSystem sha))
    (move : Move (caseSystem sha)) : Prop :=
  ∀ runner v caseId, world.commits move = some (runner, v) →
    Write.removes? v world.state = some caseId → ∀ sid w s version,
      Event.committed sid w s ∈ history → Write.edit? w s = some (caseId, version) →
        world.Replied sid

/-- The case is not deleted in this part of a history. -/
def NotDeleted (caseId : Nat) (history : List (Event (caseSystem sha))) : Prop :=
  ∀ (sid : Nat) (target : CaseTarget) (now : Instant) (s : Store),
    (Event.committed sid (Write.deleteCase target now) s : Event (caseSystem sha)) ∈ history →
      target.caseId ≠ caseId

/-- The session entered as this update. -/
def LaunchedUpdate (history : List (Event (caseSystem sha))) (sid : Nat) (owner : Text)
    (publicId : Uuid) (expected : Nat) (change : MetadataChange) : Prop :=
  (Event.launched sid (Entry.updateCaseMetadata owner publicId expected change) :
    Event (caseSystem sha)) ∈ history

/-- No edit is lost. -/
structure MetadataSafe (history : List (Event (caseSystem sha))) (world : World (caseSystem sha)) :
    Prop where
  /-- An update that reports success is one commit, at the version it named,
  to the next one. -/
  succeeded : ∀ sid owner publicId expected change,
    LaunchedUpdate history sid owner publicId expected change →
    world.sessions[sid]? = some (.done .done) → ∃ caseId now s, ∃ c : CaseRow,
      commitsOf sid history =
        [(.updateMetadata ⟨caseId, owner, publicId⟩ expected change now, s)] ∧
      c.EditedBy ⟨caseId, owner, publicId⟩ expected s ∧
      ((Write.updateMetadata ⟨caseId, owner, publicId⟩ expected change now).commit s).2.cases.get?
        caseId = some (c.edited change now)
  /-- An update that is refused has changed no row. -/
  refused : ∀ sid owner publicId expected change error,
    LaunchedUpdate history sid owner publicId expected change →
    world.sessions[sid]? = some (.done (.refused error)) →
    (error = .notFound ∨ ∃ version, error = .metadataConflict version) →
    ∀ w s, (w, s) ∈ commitsOf sid history → (Write.commit w s).2 = s
  /-- The edits of a case name ever larger versions. -/
  ordered : ∀ before between after sid₁ sid₂ w₁ w₂ s₁ s₂ caseId version₁ version₂,
    history = before ++ Event.committed sid₁ w₁ s₁ ::
      (between ++ Event.committed sid₂ w₂ s₂ :: after) →
    Write.edit? w₁ s₁ = some (caseId, version₁) → Write.edit? w₂ s₂ = some (caseId, version₂) →
    NotDeleted caseId between → version₁ < version₂
  /-- Nothing but an edit changes the metadata of a case. -/
  untouched : ∀ sid w s, Event.committed sid w s ∈ history → ∀ id c c',
    s.cases.get? id = some c → (Write.commit w s).2.cases.get? id = some c' →
    c'.metadata = c.metadata ∨ ∃ version, Write.edit? w s = some (id, version)

/-- An edit that takes effect leaves its case to be read again. -/
theorem refreshable_commit {owner : Text} {publicId : Uuid} {expected : Nat}
    {change : MetadataChange} {t : Store} (caseId : Nat) (now : Instant) :
    Refreshable (.updateMetadata ⟨caseId, owner, publicId⟩ expected change now)
      ((Write.updateMetadata ⟨caseId, owner, publicId⟩ expected change now).commit t).1
      ((Write.updateMetadata ⟨caseId, owner, publicId⟩ expected change now).commit t).2 := by
  rcases updateMetadata_cases ⟨caseId, owner, publicId⟩ expected change now t with
    ⟨c, hc, hcommit⟩ | hcommit
  · rw [hcommit]
    intro _
    exact ⟨c.edited change now, stored_touched hc.stored true _, hc.owner, hc.publicId, hc.active⟩
  · rw [hcommit]
    intro hrows
    cases hrows

/-- A case that an update has still to read stays, unless it is removed. -/
theorem refreshable_keeps {w v : Write} {t s : Store}
    (hremoves : ∀ caseId version, w.edit? t = some (caseId, version) → v.removes? s ≠ some caseId)
    (h : Refreshable w (w.commit t).1 s) : Refreshable w (w.commit t).1 (v.commit s).2 := by
  cases w with
  | updateMetadata target expected change now =>
      intro hrows
      obtain ⟨c, hc, howner, hpublicId, hactive⟩ := h hrows
      have hkeeps := hremoves target.caseId expected (if_pos hrows)
      have step := commit_rowStep v hc
      generalize hafter : (v.commit s).2.cases.get? target.caseId = after at step
      cases step with
      | kept c' hfixed hmetadata hactive' =>
          exact ⟨c', rfl, (congrArg (·.2.1) hfixed).trans howner,
            (congrArg (·.1) hfixed).trans hpublicId, hactive' hactive⟩
      | edited change' now' hedit => exact ⟨_, rfl, howner, hpublicId, hactive⟩
      | archived c' hremoved => exact absurd hremoved hkeeps
      | deleted target' now' hw hid hremoved => exact absurd hremoved hkeeps
  | _ => trivial

/-- The sessions that update. -/
def Entry.Updates : Entry → Prop
  | .updateCaseMetadata _ _ _ _ => True
  | _ => False

/-- What such a session may write. -/
def Entry.Edits : Entry → Write → Prop
  | .updateCaseMetadata owner publicId expected change => EditOf owner publicId expected change
  | _ => fun _ => False

/-- Where an update stands. -/
theorem update_status (run : Recorded Undisturbed Store.empty history world) {sid : Nat}
    {owner : Text} {publicId : Uuid} {expected : Nat} {change : MetadataChange}
    (launched : LaunchedUpdate history sid owner publicId expected change) :
    ∃ p, world.sessions[sid]? = some p ∧ Status Refused (EditOf owner publicId expected change)
      Refreshable RepliesTo (commitsOf sid history) p world.state := by
  refine @Recorded.status _ (caseSystem sha) Undisturbed Store.empty history world
    (fun _ _ => Refused) (fun _ (entry : Entry) => entry.Edits) (fun _ _ => Refreshable)
    (fun _ _ => RepliesTo) Entry.Updates (fun sid entry hentry => ?_)
    (fun sid entry w t hentry hw => ?_)
    (fun history world move undisturbed sid entry w t runner v hentry hw hmem hreplied hcommit =>
      ?_) run sid (.updateCaseMetadata owner publicId expected change) trivial launched
  · cases entry with
    | updateCaseMetadata owner publicId expected change =>
        exact once_updateCaseMetadata sha sid owner publicId expected change
    | _ => cases hentry
  · cases entry with
    | updateCaseMetadata owner publicId expected change =>
        obtain ⟨caseId, now, rfl⟩ := hw
        exact refreshable_commit caseId now
    | _ => cases hentry
  · exact refreshable_keeps fun caseId version hedit hremoved =>
      hreplied (undisturbed runner v caseId hcommit hremoved sid w t version hmem hedit)

/-- After an edit a case that is not deleted stays at a later version. -/
theorem version_since (run : Recorded P Store.empty history world)
    {past later : List (Event (caseSystem sha))} {sid : Nat} {w : Write} {t : Store}
    {caseId version : Nat} (h : history = past ++ Event.committed sid w t :: later)
    (hedit : w.edit? t = some (caseId, version)) (kept : NotDeleted caseId later) :
    ∃ c, world.state.cases.get? caseId = some c ∧ version < c.metadataVersion := by
  refine run.since h (fun s => ∃ c, s.cases.get? caseId = some c ∧ version < c.metadataVersion)
    ?_ ?_
  · obtain ⟨target, change, now, c, -, rfl, hc, hafter⟩ := edit?_eq_some.mp hedit
    refine ⟨c.edited change now, ?_, hc.version ▸ Nat.lt_succ_self _⟩
    show (w.commit t).2.cases.get? target.caseId = _
    rw [hafter]
    exact stored_touched hc.stored true _
  · rintro sid' w' t' hmem ⟨c, hc, hlt⟩
    show ∃ c, (w'.commit t').2.cases.get? caseId = some c ∧ version < c.metadataVersion
    have step := commit_rowStep w' hc
    generalize (w'.commit t').2.cases.get? caseId = after at step
    cases step with
    | kept c' hfixed hmetadata hactive =>
        exact ⟨c', rfl, Nat.lt_of_lt_of_eq hlt (congrArg (·.1) hmetadata).symm⟩
    | edited change now hedit' hactive => exact ⟨_, rfl, Nat.lt_succ_of_lt hlt⟩
    | archived c' hremoves hmetadata =>
        exact ⟨c', rfl, Nat.lt_of_lt_of_eq hlt (congrArg (·.1) hmetadata).symm⟩
    | deleted target now hw hid hremoves =>
        subst hw
        exact absurd hid (kept sid' target now t' hmem)

/-- No edit of a case's metadata is lost, in any run in which no case is
archived or deleted between an update of it and the reading of the
update's response. -/
theorem metadata_edits_never_lost (run : Recorded Undisturbed Store.empty history world) :
    MetadataSafe history world := by
  refine ⟨?_, ?_, ?_, ?_⟩
  · intro sid owner publicId expected change launched hdone
    obtain ⟨p, hp, status⟩ := update_status run launched
    cases hp.symm.trans hdone
    generalize commitsOf sid history = commits at status
    cases status with
    | before h =>
        obtain ⟨error, herror⟩ : Refused Reply.done := h
        cases herror
    | @after _ _ t w hw h hs =>
        obtain ⟨caseId, now, rfl⟩ := hw
        have hreply : RepliesTo _ _ Reply.done := h
        unfold RepliesTo at hreply
        split at hreply
        case isFalse =>
          obtain ⟨error, herror⟩ := hreply
          cases herror
        case isTrue hrows =>
          rcases updateMetadata_cases ⟨caseId, owner, publicId⟩ expected change now t with
            ⟨c, hc, hcommit⟩ | hcommit
          · refine ⟨caseId, now, t, c, rfl, hc, ?_⟩
            rw [hcommit]
            exact stored_touched hc.stored true _
          · cases hrows.symm.trans (congrArg Prod.fst hcommit)
  · intro sid owner publicId expected change error launched hdone herror w s hmem
    obtain ⟨p, hp, status⟩ := update_status run launched
    cases hp.symm.trans hdone
    generalize commitsOf sid history = commits at status hmem
    cases status with
    | before h => cases hmem
    | @after _ _ t w' hw h hs =>
        cases List.mem_singleton.mp hmem
        obtain ⟨caseId, now, rfl⟩ := hw
        have hreply : RepliesTo _ _ (Reply.refused error) := h
        unfold RepliesTo at hreply
        split at hreply
        case isTrue =>
          rcases hreply with hreply | hreply
          · cases hreply
          · cases hreply
            rcases herror with herror | ⟨version, herror⟩ <;> cases herror
        case isFalse hrows =>
          rcases updateMetadata_cases ⟨caseId, owner, publicId⟩ expected change now s with
            ⟨c, hc, hcommit⟩ | hcommit
          · exact absurd (congrArg Prod.fst hcommit) hrows
          · exact congrArg Prod.snd hcommit
  · intro before between after sid₁ sid₂ w₁ w₂ s₁ s₂ caseId version₁ version₂ hhistory hfirst
      hsecond hkept
    have split : history = (before ++ Event.committed sid₁ w₁ s₁ :: between) ++
        Event.committed sid₂ w₂ s₂ :: after := by
      rw [hhistory, List.append_assoc, List.cons_append]
    obtain ⟨world', run', rfl⟩ := run.at_commit split
    obtain ⟨c, hc, hlt⟩ := version_since run' rfl hfirst hkept
    obtain ⟨target, change, now, c', -, rfl, hc', -⟩ := edit?_eq_some.mp hsecond
    cases hc.symm.trans hc'.stored
    exact hc'.version ▸ hlt
  · intro sid w s hmem id c c' hc hafter
    have step := commit_rowStep w hc
    rw [hafter] at step
    cases step with
    | kept _ hfixed hmetadata hactive => exact .inl hmetadata
    | edited change now hedit hactive => exact .inr ⟨_, hedit⟩
    | archived _ hremoves hmetadata => exact .inl hmetadata

end Runs

/-! ## Samples -/

def sampleUpdate : Entry :=
  .updateCaseMetadata sampleOwner (sampleUuid '0') 1 ⟨some (some "label".toList), none⟩

/-- Two updates name one version; the one that enters first commits last. -/
def sampleRivals : List (Move (caseSystem sampleSha)) :=
  sampleCase ++ .launch sampleUpdate :: (sampleSteps 1 2001 4 ++
    sampleSession 2 sampleUpdate 2002 (sampleUuid '2') 20 ++ sampleSteps 1 2003 20)

/-- Every update of a run without archivals and deletions is safe. -/
theorem metadata_edits_never_lost_sample :
    MetadataSafe (World.history (start : World (caseSystem sampleSha)) sampleRivals)
      (sampleWorld sampleRivals) := by
  refine metadata_edits_never_lost (Session.recorded_foldl
    (fun _ world move => (world.commits move).all fun commit =>
      (Write.removes? commit.2 world.state).isNone) (fun history world move h => ?_) sampleRivals
    .start (by decide +kernel))
  intro runner v caseId hcommit hremoves
  rw [hcommit, Option.all_some, hremoves] at h
  cases h

/-- An update commits, the case is archived, and the update reads it again. -/
def sampleOvertaken : List (Move (caseSystem sampleSha)) :=
  sampleCase ++ .launch sampleUpdate :: (sampleSteps 1 2001 5 ++
    sampleSession 2 (.archiveCase sampleOwner (sampleUuid '0')) 2002 (sampleUuid '2') 20 ++
    sampleSteps 1 2003 20)

def sampleOvertakenHistory : List (Event (caseSystem sampleSha)) :=
  World.history start sampleOvertaken

/-- The session was told that there is no such case. -/
def toldNotFound (world : World (caseSystem sampleSha)) (sid : Nat) : Bool :=
  match world.sessions[sid]? with
  | some (.done (.refused .notFound)) => true
  | _ => false

theorem toldNotFound_iff {world : World (caseSystem sampleSha)} {sid : Nat} :
    toldNotFound world sid = true ↔ world.sessions[sid]? = some (.done (.refused .notFound)) := by
  unfold toldNotFound
  split
  · simp [*]
  case h_2 h => simpa using h

/-- The sessions whose edits took effect, with the versions they named. -/
def editors (history : List (Event (caseSystem sampleSha))) : List (Nat × Nat) :=
  history.filterMap fun event => match event with
    | .committed sid w s => (Write.edit? w s).map fun edit => (sid, edit.2)
    | .launched _ _ => none

theorem mem_editors {history : List (Event (caseSystem sampleSha))} {sid version : Nat}
    (h : (sid, version) ∈ editors history) : ∃ w s caseId,
      Event.committed sid w s ∈ history ∧ Write.edit? w s = some (caseId, version) := by
  obtain ⟨event, hevent, hedit⟩ := List.mem_filterMap.mp h
  cases event with
  | launched other entry => cases hedit
  | committed other w s =>
      obtain ⟨⟨caseId, version'⟩, hfound, heq⟩ := Option.map_eq_some_iff.mp hedit
      cases heq
      exact ⟨w, s, caseId, hevent, hfound⟩

/-- The update is told that there is no such case, and has changed it. -/
theorem refused_update_commits : ∃ (history : List (Event (caseSystem sampleSha)))
    (world : World (caseSystem sampleSha)),
    Recorded (fun _ _ _ => True) Store.empty history world ∧ ¬ MetadataSafe history world := by
  refine ⟨sampleOvertakenHistory, sampleWorld sampleOvertaken,
    Session.recorded_foldl (fun _ _ _ => true) (fun _ _ _ _ => trivial) sampleOvertaken
      (.start : Recorded _ Store.empty [] start) ?_, fun safe => ?_⟩
  · decide +kernel
  · have told : (sampleWorld sampleOvertaken).sessions[1]? = some (.done (.refused .notFound)) :=
      toldNotFound_iff.mp (by decide +kernel)
    obtain ⟨w, s, caseId, hcommit, hedit⟩ := mem_editors
      (by decide +kernel : (1, 1) ∈ editors sampleOvertakenHistory)
    have launched : LaunchedUpdate sampleOvertakenHistory 1 sampleOwner (sampleUuid '0') 1
        ⟨some (some "label".toList), none⟩ := by
      have first : (sampleCase.foldl World.step start).sessions.length = 1 := by decide +kernel
      have mem := World.mem_history_launch start sampleCase (sampleSteps 1 2001 5 ++
        sampleSession 2 (.archiveCase sampleOwner (sampleUuid '0')) 2002 (sampleUuid '2') 20 ++
        sampleSteps 1 2003 20) sampleUpdate
      rw [first] at mem
      exact mem
    have unchanged := safe.refused 1 _ _ _ _ .notFound launched told (.inl rfl) w s
      (Session.mem_commitsOf.mpr hcommit)
    obtain ⟨target, change, now, c, -, rfl, hc, hafter⟩ := edit?_eq_some.mp hedit
    have after : (s.touched target.caseId true now fun c => c.edited change now).cases.get?
        target.caseId = some (c.edited change now) := stored_touched hc.stored true _
    rw [← hafter, unchanged, hc.stored] at after
    have version := congrArg CaseRow.metadataVersion (Option.some.inj after)
    exact absurd version (Nat.ne_of_lt (Nat.lt_succ_self _))

end TonTracker
