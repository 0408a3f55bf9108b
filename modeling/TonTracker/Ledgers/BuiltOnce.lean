/-
# `Ledgers.BuiltOnce` — a capture has one ledger, and every call returns it

The unique index of the ledgers keeps one to a capture.  What a session sees
of a ledger the others leave as it is, since they stage activities under
ledgers of their own only (`Owned`); so a ledger a call has revalidated is
the stored one when it commits (`buildLedger_triple`), and stays.  A call
commits as it returns, and not otherwise (`ledgerSession_stores`).
-/
import TonTracker.Services.WalletNativeActivityLedger
import TonTracker.Trace.CountedOnce

namespace TonTracker

open Session (Protocol Prog World Move Reaches Run)
open OpenTransactions (Db Distinct Outcome StoresLast storesLast_bind storesLast_bindExcept
  storesLast_tryCatch)
open ExceptFold (bind_eq_ok check_eq_ok present_eq_ok)

variable {lib : LedgerLibrary} {traces : TraceStore} {db : Db LedgerTableRow} {sid other : Nat}
  {captureId : Nat} {ledger : NativeLedger} {A : Db LedgerTableRow → Prop}

/-! ## Ledgers of a table -/

theorem collides_symm (a b : LedgerTableRow) : a.collides b = b.collides a := by
  cases a <;> cases b <;> simp only [LedgerTableRow.collides, eq_comm]

theorem collides_ledger (id : Nat) (header header' : LedgerHeader) :
    (LedgerTableRow.ledger id header).collides (.ledger id header') = true := by
  simp [LedgerTableRow.collides]

theorem mem_ledgersOf {rows : List LedgerTableRow} : ledger ∈ ledgersOf rows captureId ↔
    ∃ id header, .ledger id header ∈ rows ∧ header.captureId = captureId ∧
      header.contractVersion = nativeActivityLedgerContractVersion ∧
      ledger = header.withRows id (activitiesOf rows id) := by
  unfold ledgersOf
  rw [List.mem_filterMap]
  constructor
  · rintro ⟨row, hrow, heq⟩
    cases row with
    | activity id activity => cases heq
    | ledger id header =>
        simp only [Option.ite_none_right_eq_some, Option.some.injEq] at heq
        obtain ⟨⟨hcapture, hversion⟩, rfl⟩ := heq
        exact ⟨id, header, hrow, hcapture, hversion, rfl⟩
  · rintro ⟨id, header, hrow, hcapture, hversion, rfl⟩
    exact ⟨_, hrow, if_pos ⟨hcapture, hversion⟩⟩

theorem activitiesOf_append (a b : List LedgerTableRow) (id : Nat) :
    activitiesOf (a ++ b) id = activitiesOf a id ++ activitiesOf b id :=
  List.filterMap_append

theorem activitiesOf_eq_nil {rows : List LedgerTableRow} {id : Nat}
    (h : ∀ row, .activity id row ∉ rows) : activitiesOf rows id = [] := by
  refine List.filterMap_eq_nil_iff.mpr fun row hrow => ?_
  cases row with
  | ledger _ _ => rfl
  | activity id' row =>
      refine if_neg ?_
      rintro rfl
      exact h row hrow

/-! ## What the sessions owe each other -/

/-- Every activity is under a ledger that is stored, or staged by the same
session. -/
structure Owned (db : Db LedgerTableRow) : Prop where
  stored : ∀ id row, .activity id row ∈ db.stored → ∃ header, .ledger id header ∈ db.stored
  staged : ∀ sid id row, (sid, .activity id row) ∈ db.staged →
    ∃ header, (sid, .ledger id header) ∈ db.staged

/-- A session stages an activity under a ledger it has staged. -/
def ledgerProtocol : Protocol ledgerMachine where
  inv := fun db : Db LedgerTableRow => Distinct LedgerTableRow.collides db ∧ Owned db
  allowed := fun _ _ _ => True
  may := fun sid (w : Nat × OpenTransactions.Statement LedgerTableRow) (db : Db LedgerTableRow) =>
    w.1 = sid ∧ ∀ id row, w.2 = .insert (.activity id row) →
      ∃ header, (sid, LedgerTableRow.ledger id header) ∈ db.staged
  preserved := by
    rintro _ ⟨sid, statement⟩ db ⟨hdistinct, howned⟩ - ⟨rfl, hmay⟩
    refine ⟨hdistinct.execute collides_symm statement, ?_⟩
    cases statement with
    | insert row =>
        obtain ⟨outcome, -, heq⟩ | ⟨-, -, heq⟩ :=
          OpenTransactions.execute_insert LedgerTableRow.collides sid row db
        · show Owned (db.execute LedgerTableRow.collides sid (.insert row)).2
          rw [heq]
          exact howned
        · show Owned (db.execute LedgerTableRow.collides sid (.insert row)).2
          rw [heq]
          refine ⟨howned.stored, fun k id activity h => ?_⟩
          obtain h | h := List.mem_append.mp h
          · obtain ⟨header, hheader⟩ := howned.staged k id activity h
            exact ⟨header, List.mem_append_left _ hheader⟩
          · obtain ⟨rfl, rfl⟩ := Prod.mk.inj (List.mem_singleton.mp h)
            obtain ⟨header, hheader⟩ := hmay id activity rfl
            exact ⟨header, List.mem_append_left _ hheader⟩
    | commit =>
        refine ⟨fun id row h => ?_, fun k id row h => ?_⟩
        · obtain h | h := Db.mem_visible.mp h
          · obtain ⟨header, hheader⟩ := howned.stored id row h
            exact ⟨header, Db.mem_visible.mpr (.inl hheader)⟩
          · obtain ⟨header, hheader⟩ := howned.staged sid id row h
            exact ⟨header, Db.mem_visible.mpr (.inr hheader)⟩
        · obtain ⟨hmem, hne⟩ := List.mem_filter.mp h
          obtain ⟨header, hheader⟩ := howned.staged k id row hmem
          exact ⟨header, List.mem_filter.mpr ⟨hheader, hne⟩⟩
    | rollback =>
        refine ⟨howned.stored, fun k id row h => ?_⟩
        obtain ⟨hmem, hne⟩ := List.mem_filter.mp h
        obtain ⟨header, hheader⟩ := howned.staged k id row hmem
        exact ⟨header, List.mem_filter.mpr ⟨hheader, hne⟩⟩

/-- A commit adds nothing under a stored ledger. -/
theorem activitiesOf_own_stored (hdistinct : Distinct LedgerTableRow.collides db)
    (howned : Owned db) {id : Nat} {header : LedgerHeader}
    (h : .ledger id header ∈ db.stored) : activitiesOf (db.own sid) id = [] := by
  refine activitiesOf_eq_nil fun row hrow => ?_
  obtain ⟨header', hheader'⟩ := howned.staged sid id row (Db.mem_own.mp hrow)
  have hcollides := collides_ledger id header header'
  rw [hdistinct.ne_of_mem h hheader'] at hcollides
  cases hcollides

/-- A commit of another session adds nothing under a ledger the session
sees. -/
theorem activitiesOf_own (hdistinct : Distinct LedgerTableRow.collides db) (howned : Owned db)
    (hne : other ≠ sid) {id : Nat} {header : LedgerHeader}
    (h : .ledger id header ∈ db.visible sid) : activitiesOf (db.own other) id = [] := by
  obtain h | h := Db.mem_visible.mp h
  · exact activitiesOf_own_stored hdistinct howned h
  · refine activitiesOf_eq_nil fun row hrow => ?_
    obtain ⟨header', hheader'⟩ := howned.staged other id row (Db.mem_own.mp hrow)
    have hcollides := collides_ledger id header header'
    rw [hdistinct.ne_of_staged collides_symm hne.symm h hheader'] at hcollides
    cases hcollides

/-- The session has nothing staged. -/
def Unstaged (sid : Nat) (db : Db LedgerTableRow) : Prop := db.own sid = []

/-- What an idle session sees is stored. -/
theorem Unstaged.visible (h : Unstaged sid db) : db.visible sid = db.stored := by
  unfold Db.visible
  rw [h, List.append_nil]

/-- The session has staged the ledger. -/
def StagedLedger (sid id : Nat) (db : Db LedgerTableRow) : Prop :=
  ∃ header, (sid, LedgerTableRow.ledger id header) ∈ db.staged

/-- The session sees the ledger. -/
def Sees (sid captureId : Nat) (ledger : NativeLedger) (db : Db LedgerTableRow) : Prop :=
  ledger ∈ ledgersOf (db.visible sid) captureId

/-- The ledger is stored. -/
def Stored (captureId : Nat) (ledger : NativeLedger) (db : Db LedgerTableRow) : Prop :=
  ledger ∈ ledgersOf db.stored captureId

/-- A ledger among rows, with more rows that have none under it. -/
theorem mem_ledgersOf_insert {a b c : List LedgerTableRow}
    (h : ledger ∈ ledgersOf (a ++ c) captureId)
    (hnone : ∀ id header, .ledger id header ∈ a ++ c → activitiesOf b id = []) :
    ledger ∈ ledgersOf (a ++ b ++ c) captureId := by
  obtain ⟨id, header, hmem, hcapture, hversion, rfl⟩ := mem_ledgersOf.mp h
  refine mem_ledgersOf.mpr ⟨id, header, ?_, hcapture, hversion, ?_⟩
  · obtain hmem | hmem := List.mem_append.mp hmem
    · exact List.mem_append_left _ (List.mem_append_left _ hmem)
    · exact List.mem_append_right _ hmem
  · have hadded : activitiesOf (a ++ b ++ c) id = activitiesOf (a ++ c) id := by
      rw [activitiesOf_append, activitiesOf_append, activitiesOf_append, hnone id header hmem,
        List.append_nil]
    rw [hadded]

section Stability

variable (statement : OpenTransactions.Statement LedgerTableRow)

theorem StagedLedger.execute {id : Nat} (hne : other ≠ sid) (h : StagedLedger sid id db) :
    StagedLedger sid id (db.execute LedgerTableRow.collides other statement).2 := by
  obtain ⟨header, hheader⟩ := h
  refine ⟨header, Db.mem_own.mp ?_⟩
  rw [OpenTransactions.own_execute_other statement hne]
  exact Db.mem_own.mpr hheader

theorem Sees.execute (hdistinct : Distinct LedgerTableRow.collides db) (howned : Owned db)
    (hne : other ≠ sid) (h : Sees sid captureId ledger db) :
    Sees sid captureId ledger (db.execute LedgerTableRow.collides other statement).2 := by
  unfold Sees Db.visible at h ⊢
  rw [OpenTransactions.own_execute_other statement hne]
  obtain heq | ⟨-, heq⟩ := OpenTransactions.stored_execute statement <;> rw [heq]
  · exact h
  · exact mem_ledgersOf_insert h fun id header hmem => activitiesOf_own hdistinct howned hne hmem

theorem Stored.execute (hdistinct : Distinct LedgerTableRow.collides db) (howned : Owned db)
    (h : Stored captureId ledger db) :
    Stored captureId ledger (db.execute LedgerTableRow.collides sid statement).2 := by
  unfold Stored at h ⊢
  obtain heq | ⟨-, heq⟩ := OpenTransactions.stored_execute statement <;> rw [heq]
  · exact h
  · rw [← List.append_nil db.stored] at h
    have hadded := mem_ledgersOf_insert (b := db.own sid) h fun id header hmem =>
      activitiesOf_own_stored hdistinct howned (List.append_nil db.stored ▸ hmem)
    rwa [List.append_nil] at hadded

theorem unstaged_stable : ledgerProtocol.Stable sid (Unstaged sid) :=
  fun _ _ w hne _ _ hmay hidle =>
    (OpenTransactions.own_execute_other w.2 fun heq => hne (hmay.1 ▸ heq)).trans hidle

theorem stagedLedger_stable {id : Nat} : ledgerProtocol.Stable sid (StagedLedger sid id) :=
  fun _ _ w hne _ _ hmay hstaged => hstaged.execute w.2 fun heq => hne (hmay.1 ▸ heq)

theorem sees_stable : ledgerProtocol.Stable sid (Sees sid captureId ledger) :=
  fun _ _ w hne hinv _ hmay hsees =>
    hsees.execute w.2 hinv.1 hinv.2 fun heq => hne (hmay.1 ▸ heq)

theorem stored_stable : ledgerProtocol.Stable sid (Stored captureId ledger) :=
  fun _ _ w _ hinv _ _ hstored => hstored.execute w.2 hinv.1 hinv.2

end Stability

/-! ## What a call does -/

/-- A read of the evidence, and what follows it. -/
theorem readEvidence_triple {α β : Type} {read : Except TraceRaised α} {f : α → LedgerJob β}
    {B : Except LedgerRaised β → Db LedgerTableRow → Prop}
    (hraise : ∀ raised db, A db → B (.error raised) db)
    (hf : ∀ value, read = .ok value → ledgerProtocol.Triple sid A (f value).run B) :
    ledgerProtocol.Triple sid A (liftEvidence read >>= f).run B := by
  cases read with
  | ok value => exact hf value rfl
  | error raised => exact Protocol.triple_done fun db hA => hraise (.evidence raised) db hA

/-- A session that rolls back is idle. -/
theorem rollbackSession_triple :
    ledgerProtocol.Triple sid A (rollbackSession sid).run fun result db =>
      result = .ok () ∧ Unstaged sid db := by
  intro db hinv hA db' hrely
  refine ⟨⟨rfl, nofun⟩, fun _ => ⟨?_, rfl, ?_⟩⟩
  · exact ledgerProtocol.preserved sid (sid, .rollback) db' hrely.1 trivial ⟨rfl, nofun⟩
  · exact (@OpenTransactions.own_rollback _ LedgerTableRow.collides db' sid sid).trans
      (if_pos rfl)

/-- What a session finds it sees. -/
theorem findLedger_triple (stable : ledgerProtocol.Stable sid A) :
    ledgerProtocol.Triple sid A (findLedger sid captureId).run fun result db =>
      A db ∧ ∀ ledger, result = .ok (some ledger) → Sees sid captureId ledger db := by
  intro db hinv hA fate
  cases fate with
  | fails => exact ⟨hinv, hA, nofun⟩
  | stops => exact ⟨hinv, hA, nofun⟩
  | runs =>
      intro db' hrely
      have hA' := stable.rely hrely hA
      dsimp only [Prog.bind, ExceptT.bindCont, Function.comp_apply]
      rcases hfound : ledgersOf (Db.visible db' sid) captureId with _ | ⟨ledger, _ | ⟨other, rest⟩⟩
      · exact ⟨hrely.1, hA', nofun⟩
      · refine ⟨hrely.1, hA', fun found h => ?_⟩
        cases h
        show ledger ∈ ledgersOf (Db.visible db' sid) captureId
        rw [hfound]
        exact List.mem_singleton_self ledger
      · exact ⟨hrely.1, hA', nofun⟩

/-- An insert that is not refused. -/
theorem insertRow_triple {B : Db LedgerTableRow → Prop} {row : LedgerTableRow}
    (stable : ledgerProtocol.Stable sid A)
    (hmay : ∀ db id activity, A db → row = .activity id activity → StagedLedger sid id db)
    (hB : ∀ db : Db LedgerTableRow, A db → B { db with staged := db.staged ++ [(sid, row)] }) :
    ledgerProtocol.Triple sid A (insertRow sid row).run fun result db =>
      result = .ok () → B db := by
  intro db hinv hA fate
  cases fate with
  | fails => exact ⟨hinv, nofun⟩
  | stops => exact ⟨hinv, nofun⟩
  | runs =>
      intro db' hrely
      have hA' := stable.rely hrely hA
      have may : ledgerProtocol.may sid (sid, .insert row) db' :=
        ⟨rfl, fun id activity heq => hmay db' id activity hA' (by cases heq; rfl)⟩
      refine ⟨may, fun _ => ?_⟩
      have hinv' := ledgerProtocol.preserved sid (sid, .insert row) db' hrely.1 trivial may
      change ledgerProtocol.inv
        (Db.execute LedgerTableRow.collides sid (.insert row) db').2 at hinv'
      dsimp only [Prog.bind, ExceptT.bindCont, Function.comp_apply, ledgerMachine]
      obtain ⟨outcome, hne, heq⟩ | ⟨-, -, heq⟩ :=
        OpenTransactions.execute_insert LedgerTableRow.collides sid row db'
      · rw [heq] at hinv' ⊢
        cases outcome with
        | done => exact absurd rfl hne
        | refused => exact ⟨hinv', nofun⟩
        | locked => exact ⟨hinv', nofun⟩
      · rw [heq] at hinv' ⊢
        exact ⟨hinv', fun _ => hB db' hA'⟩

theorem insertActivities_triple (id : Nat) (rows : List ActivityRow) :
    ledgerProtocol.Triple sid (StagedLedger sid id) (insertActivities sid id rows).run
      fun _ _ => True := by
  induction rows with
  | nil => exact Protocol.triple_done fun _ _ => trivial
  | cons row rows ih =>
      refine Protocol.triple_bindExcept (C := fun _ => StagedLedger sid id)
        (Protocol.triple_mono (fun _ h => h) (fun result db h => ?_)
          (insertRow_triple (B := StagedLedger sid id) stagedLedger_stable ?_ ?_)) fun _ => ih
      · cases result with
        | ok _ => exact h rfl
        | error _ => trivial
      · rintro db id activity hstaged heq
        cases heq
        exact hstaged
      · rintro db ⟨header, hheader⟩
        exact ⟨header, List.mem_append_left _ hheader⟩

/-- The response is that of a stored ledger. -/
def AnswersLedger (lib : LedgerLibrary) (traces : TraceStore) (call : LedgerCall) (captureId : Nat)
    (response : LedgerResponse) (db : Db LedgerTableRow) : Prop :=
  ∃ ledger, Stored captureId ledger db ∧
    ledgerResponse lib traces ledger call.runId call.transactionHash = .ok response

/-- What a call promises: it leaves nothing staged, and returns what is
stored. -/
def PromisesLedger (lib : LedgerLibrary) (traces : TraceStore) (sid : Nat) (call : LedgerCall)
    (captureId : Nat) (result : Except LedgerRaised (LedgerResponse × Bool))
    (db : Db LedgerTableRow) : Prop :=
  ∀ response created, result = .ok (response, created) →
    Unstaged sid db ∧ AnswersLedger lib traces call captureId response db

/-- The response of a ledger the session sees. -/
theorem commitSeen_triple {call : LedgerCall} :
    ledgerProtocol.Triple sid (Sees sid captureId ledger) (do
        let validated ← liftEvidence
          (ledgerResponse lib traces ledger call.runId call.transactionHash)
        reachStatement
        let _ ← runStatement sid .commit
        return (validated, true) : LedgerJob (LedgerResponse × Bool)).run
      (PromisesLedger lib traces sid call captureId) := by
  refine readEvidence_triple (fun _ _ _ => nofun) fun validated hvalidated => ?_
  intro db hinv hsees fate
  cases fate with
  | fails => exact ⟨hinv, nofun⟩
  | stops => exact ⟨hinv, nofun⟩
  | runs =>
      intro db' hrely
      refine ⟨⟨rfl, nofun⟩, fun _ => ⟨?_, fun response created h => ?_⟩⟩
      · exact ledgerProtocol.preserved sid (sid, .commit) db' hrely.1 trivial ⟨rfl, nofun⟩
      · cases h
        refine ⟨?_, ledger, sees_stable.rely hrely hsees, hvalidated⟩
        exact (@OpenTransactions.own_commit _ LedgerTableRow.collides db' sid sid).trans
          (if_pos rfl)

theorem storeLedger_triple {call : LedgerCall} {header : LedgerHeader} {rows : List ActivityRow} :
    ledgerProtocol.Triple sid (fun _ => True)
      (storeLedger lib traces sid call captureId header rows).run
      (PromisesLedger lib traces sid call captureId) := by
  intro db hinv _ id
  refine Protocol.triple_bindExcept (C := fun _ => StagedLedger sid id)
    (Protocol.triple_mono (fun _ h => h) (fun result db h => ?_)
      (insertRow_triple (A := fun _ => True) (B := StagedLedger sid id) Protocol.stable_true
        (by rintro _ _ _ - heq; cases heq)
        fun db _ => ⟨header, List.mem_append_right _ (List.mem_singleton_self _)⟩))
    (fun _ => ?_) db hinv trivial
  · cases result with
    | ok _ => exact h rfl
    | error _ => exact nofun
  refine Protocol.triple_bindExcept (C := fun _ _ => True)
    (Protocol.triple_mono (fun _ h => h) (fun result db h => ?_) (insertActivities_triple id rows))
    fun _ => ?_
  · cases result with
    | ok _ => trivial
    | error _ => exact nofun
  refine Protocol.triple_bindExcept (C := fun found db => ∀ ledger, found = some ledger →
      Sees sid captureId ledger db)
    (Protocol.triple_mono (fun _ h => h) (fun result db h => ?_)
      (findLedger_triple (A := fun _ => True) Protocol.stable_true)) fun found => ?_
  · cases result with
    | ok found => exact fun ledger heq => h.2 ledger (heq ▸ rfl)
    | error _ => exact nofun
  cases found with
  | none => exact Protocol.triple_done fun _ _ => nofun
  | some ledger =>
      intro db hinv h
      exact commitSeen_triple db hinv (h ledger rfl)

/-- The response of a stored ledger that an idle session has found. -/
theorem answerStored_triple {call : LedgerCall} :
    ledgerProtocol.Triple sid (fun db => Unstaged sid db ∧ Stored captureId ledger db) (do
        let response ← liftEvidence
          (ledgerResponse lib traces ledger call.runId call.transactionHash)
        return (response, false) : LedgerJob (LedgerResponse × Bool)).run
      (PromisesLedger lib traces sid call captureId) := by
  refine readEvidence_triple (fun _ _ _ => nofun) fun response hresponse => ?_
  refine Protocol.triple_done fun db h found created heq => ?_
  cases heq
  exact ⟨h.1, ledger, h.2, hresponse⟩

/-- A ledger an idle session finds is stored. -/
theorem findStored_triple :
    ledgerProtocol.Triple sid (Unstaged sid) (findLedger sid captureId).run fun result db =>
      Unstaged sid db ∧ ∀ ledger, result = .ok (some ledger) → Stored captureId ledger db := by
  refine Protocol.triple_mono (fun _ h => h) (fun result db h => ⟨h.1, fun ledger heq => ?_⟩)
    (findLedger_triple unstaged_stable)
  unfold Stored
  rw [← h.1.visible]
  exact h.2 ledger heq

/-- A search of an idle session, and what follows it. -/
theorem searchStored_triple {α : Type} {f : Option NativeLedger → LedgerJob α}
    {B : Except LedgerRaised α → Db LedgerTableRow → Prop}
    (hraise : ∀ raised db, B (.error raised) db)
    (hnone : ledgerProtocol.Triple sid (Unstaged sid) (f none).run B)
    (hsome : ∀ ledger, ledgerProtocol.Triple sid
      (fun db => Unstaged sid db ∧ Stored captureId ledger db) (f (some ledger)).run B) :
    ledgerProtocol.Triple sid (Unstaged sid) (findLedger sid captureId >>= f).run B := by
  refine Protocol.triple_bindExcept (C := fun found db => Unstaged sid db ∧ ∀ ledger,
      found = some ledger → Stored captureId ledger db)
    (Protocol.triple_mono (fun _ h => h) (fun result db h => ?_) findStored_triple) fun found => ?_
  · cases result with
    | ok found => exact ⟨h.1, fun ledger heq => h.2 ledger (heq ▸ rfl)⟩
    | error raised => exact hraise raised db
  · cases found with
    | none => exact fun db hinv h => hnone db hinv h.1
    | some ledger => exact fun db hinv h => hsome ledger db hinv ⟨h.1, h.2 ledger rfl⟩

/-- A rollback, and what follows it. -/
theorem afterRollback_triple {α : Type} {p : LedgerJob α}
    {B : Except LedgerRaised α → Db LedgerTableRow → Prop}
    (hp : ledgerProtocol.Triple sid (Unstaged sid) p.run B) :
    ledgerProtocol.Triple sid (fun _ => True) (do rollbackSession sid; p : LedgerJob α).run B := by
  refine Protocol.triple_bindExcept (C := fun _ => Unstaged sid)
    (Protocol.triple_mono (fun _ h => h) (fun result db h => ?_) rollbackSession_triple) fun _ => hp
  obtain ⟨rfl, hidle⟩ := h
  exact hidle

theorem recoverLedger_triple {call : LedgerCall} (raised : LedgerRaised) :
    ledgerProtocol.Triple sid (fun _ => True)
      (recoverLedger lib traces sid call captureId raised).run
      (PromisesLedger lib traces sid call captureId) := by
  have hraise : ∀ {A : Db LedgerTableRow → Prop} (raised : LedgerRaised),
      ledgerProtocol.Triple sid A (throw raised : LedgerJob (LedgerResponse × Bool)).run
        (PromisesLedger lib traces sid call captureId) :=
    fun raised => Protocol.triple_done fun _ _ => nofun
  unfold recoverLedger
  split
  · exact afterRollback_triple (hraise _)
  · exact afterRollback_triple (searchStored_triple (fun _ _ => nofun) (hraise _)
      fun ledger => answerStored_triple)
  · exact hraise _
  · exact hraise _
  · exact afterRollback_triple (hraise _)
  · exact afterRollback_triple (hraise _)
  · exact hraise _
  · exact hraise _

/-- What a call returns is the response of the stored ledger of its
capture. -/
def ReturnsLedger (lib : LedgerLibrary) (traces : TraceStore) (sid : Nat) (call : LedgerCall)
    (result : Except LedgerRaised (LedgerResponse × Bool)) (db : Db LedgerTableRow) : Prop :=
  ∀ response created, result = .ok (response, created) → Unstaged sid db ∧ ∃ capture,
    findCaptureForTransaction traces.captures call.runId call.transactionHash =
      .ok (some capture) ∧ AnswersLedger lib traces call capture.id response db

theorem buildLedger_triple (call : LedgerCall) :
    ledgerProtocol.Triple sid (Unstaged sid) (buildLedger lib traces sid call).run
      (ReturnsLedger lib traces sid call) := by
  refine readEvidence_triple (fun _ _ _ => nofun) fun anchor _ => ?_
  refine readEvidence_triple (fun _ _ _ => nofun) fun _ _ => ?_
  refine readEvidence_triple (fun _ _ _ => nofun) fun found hfound => ?_
  refine readEvidence_triple (fun _ _ _ => nofun) fun capture hcapture => ?_
  obtain rfl := present_eq_ok.mp hcapture
  have hreturned : ∀ result db, PromisesLedger lib traces sid call capture.id result db →
      ReturnsLedger lib traces sid call result db := fun result db h response created heq =>
    ⟨(h response created heq).1, capture, hfound, (h response created heq).2⟩
  refine searchStored_triple (fun _ _ => nofun) ?_ fun ledger =>
    Protocol.triple_mono (fun _ h => h) hreturned answerStored_triple
  refine readEvidence_triple (fun _ _ _ => nofun) fun derived _ => ?_
  intro db hinv hidle builtAt
  refine Protocol.triple_mono (fun _ _ => trivial) hreturned (Protocol.triple_tryCatch
    (C := fun _ _ => True) (Protocol.triple_mono (fun _ h => h) (fun result db h => ?_)
      storeLedger_triple) recoverLedger_triple) db hinv hidle
  cases result with
  | ok value => exact h
  | error raised => trivial

/-- What a session promises of its reply. -/
def RepliesLedger (lib : LedgerLibrary) (traces : TraceStore) (reply : LedgerReply)
    (db : Db LedgerTableRow) : Prop :=
  Unstaged reply.session db ∧ ReturnsLedger lib traces reply.session reply.call reply.result db

theorem ledgerSession_triple (call : LedgerCall) :
    ledgerProtocol.Triple sid (fun _ => True) ((ledgerSystem lib traces).program sid call)
      (RepliesLedger lib traces) := by
  have hsession : ledgerProtocol.Triple sid (fun _ => True) (ledgerSession lib traces sid call).run
      fun result db => Unstaged sid db ∧ ReturnsLedger lib traces sid call result db := by
    refine afterRollback_triple (Protocol.triple_tryCatch (C := fun _ _ => True)
      (Protocol.triple_mono (fun _ h => h) (fun result db h => ?_) (buildLedger_triple call))
      fun raised => afterRollback_triple (Protocol.triple_done fun db h => ⟨h, nofun⟩))
    cases result with
    | ok value => exact ⟨(h value.1 value.2 rfl).1, h⟩
    | error raised => trivial
  refine Protocol.triple_bind hsession fun result => Protocol.triple_done fun db h => h

theorem returned_stable {call : LedgerCall}
    {result : Except LedgerRaised (LedgerResponse × Bool)} :
    ledgerProtocol.Stable sid (ReturnsLedger lib traces sid call result) := by
  intro db other w hne hinv hallowed hmay h response created heq
  obtain ⟨hidle, capture, hcapture, ledger, hstored, hresponse⟩ := h response created heq
  exact ⟨unstaged_stable db other w hne hinv hallowed hmay hidle, capture, hcapture, ledger,
    @stored_stable sid _ _ db other w hne hinv hallowed hmay hstored, hresponse⟩

/-! ## A call stores as it returns -/

/-- The statement that stores. -/
def Stores (w : Nat × OpenTransactions.Statement LedgerTableRow) : Prop := w.2 = .commit

/-- The result of a call that has stored a ledger. -/
def Created (result : Except LedgerRaised (LedgerResponse × Bool)) : Prop :=
  ∃ response, result = .ok (response, true)

theorem not_created_error (raised : LedgerRaised) : ¬ Created (.error raised) := by
  rintro ⟨response, h⟩
  cases h

section Stores

variable {α : Type} {Q : Except LedgerRaised α → Prop}

theorem reachStatement_stores {Q : Except LedgerRaised Unit → Prop} :
    StoresLast (M := ledgerMachine) Stores Q reachStatement.run := by
  intro fate
  cases fate <;> exact trivial

theorem runStatement_stores {Q : Except LedgerRaised Outcome → Prop}
    {statement : OpenTransactions.Statement LedgerTableRow} (h : statement ≠ .commit) :
    StoresLast (M := ledgerMachine) Stores Q (runStatement sid statement).run :=
  fun _ => ⟨trivial, fun hstores => (h hstores).elim⟩

theorem afterRollback_stores {p : LedgerJob α}
    (hp : StoresLast (M := ledgerMachine) Stores Q p.run) :
    StoresLast (M := ledgerMachine) Stores Q (do rollbackSession sid; p : LedgerJob α).run :=
  storesLast_bindExcept (storesLast_bindExcept (runStatement_stores nofun) fun _ => trivial)
    fun _ => hp

theorem insertRow_stores {Q : Except LedgerRaised Unit → Prop} (row : LedgerTableRow) :
    StoresLast (M := ledgerMachine) Stores Q (insertRow sid row).run := by
  refine storesLast_bindExcept reachStatement_stores fun _ => ?_
  refine storesLast_bindExcept (runStatement_stores nofun) fun outcome => ?_
  cases outcome <;> exact trivial

theorem insertActivities_stores {Q : Except LedgerRaised Unit → Prop} (id : Nat)
    (rows : List ActivityRow) :
    StoresLast (M := ledgerMachine) Stores Q (insertActivities sid id rows).run := by
  induction rows with
  | nil => exact trivial
  | cons row rows ih => exact storesLast_bindExcept (insertRow_stores _) fun _ => ih

theorem findLedger_stores {Q : Except LedgerRaised (Option NativeLedger) → Prop} :
    StoresLast (M := ledgerMachine) Stores Q (findLedger sid captureId).run := by
  refine storesLast_bindExcept reachStatement_stores fun _ db => ?_
  dsimp only [Prog.bind, ExceptT.bindCont, Function.comp_apply]
  rcases ledgersOf (Db.visible db sid) captureId with _ | ⟨ledger, _ | ⟨other, rest⟩⟩ <;>
    exact trivial

/-- What follows a read of the evidence. -/
theorem readEvidence_stores {β : Type} {read : Except TraceRaised β} {f : β → LedgerJob α}
    (hf : ∀ value, StoresLast (M := ledgerMachine) Stores Q (f value).run) :
    StoresLast (M := ledgerMachine) Stores Q (liftEvidence read >>= f).run :=
  storesLast_bindExcept trivial hf

end Stores

theorem storeLedger_stores {call : LedgerCall} {header : LedgerHeader} {rows : List ActivityRow} :
    StoresLast (M := ledgerMachine) Stores Created
      (storeLedger lib traces sid call captureId header rows).run := by
  refine storesLast_bindExcept (fun _ => trivial) fun id => ?_
  refine storesLast_bindExcept (insertRow_stores _) fun _ => ?_
  refine storesLast_bindExcept (insertActivities_stores id rows) fun _ => ?_
  refine storesLast_bindExcept findLedger_stores fun found => ?_
  cases found with
  | none => exact trivial
  | some stored =>
      refine readEvidence_stores fun validated => ?_
      refine storesLast_bindExcept reachStatement_stores fun _ => ?_
      exact fun _ => ⟨trivial, fun _ => ⟨_, rfl, validated, rfl⟩⟩

theorem recoverLedger_stores {call : LedgerCall} (raised : LedgerRaised) :
    StoresLast (M := ledgerMachine) Stores Created
      (recoverLedger lib traces sid call captureId raised).run := by
  unfold recoverLedger
  split
  · exact afterRollback_stores trivial
  · refine afterRollback_stores (storesLast_bindExcept findLedger_stores fun found => ?_)
    cases found with
    | none => exact trivial
    | some concurrent => exact readEvidence_stores fun _ => trivial
  · exact trivial
  · exact trivial
  · exact afterRollback_stores trivial
  · exact afterRollback_stores trivial
  · exact trivial
  · exact trivial

theorem buildLedger_stores (call : LedgerCall) :
    StoresLast (M := ledgerMachine) Stores Created (buildLedger lib traces sid call).run := by
  refine readEvidence_stores fun anchor => ?_
  refine readEvidence_stores fun _ => ?_
  refine readEvidence_stores fun found => ?_
  refine readEvidence_stores fun capture => ?_
  refine storesLast_bindExcept findLedger_stores fun existing => ?_
  cases existing with
  | some existing => exact readEvidence_stores fun _ => trivial
  | none =>
      refine readEvidence_stores fun derived => ?_
      refine storesLast_bindExcept (fun _ => trivial) fun builtAt => ?_
      exact storesLast_tryCatch storeLedger_stores recoverLedger_stores not_created_error

/-- The program of a call stores last, and only where it then replies with
the ledger it has stored. -/
theorem ledgerSession_stores (call : LedgerCall) :
    StoresLast (M := ledgerMachine) Stores (fun reply => Created reply.result)
      ((ledgerSystem lib traces).program sid call) := by
  have hsession : StoresLast (M := ledgerMachine) Stores Created
      (ledgerSession lib traces sid call).run :=
    afterRollback_stores (storesLast_tryCatch (buildLedger_stores call)
      (fun _ => afterRollback_stores trivial) not_created_error)
  exact storesLast_bind hsession (fun _ => trivial) fun result h => ⟨_, rfl, h⟩

theorem ledgerSession_returns {call : LedgerCall} :
    Prog.Returns (M := ledgerMachine) (fun reply : LedgerReply => reply.session = sid)
      ((ledgerSystem lib traces).program sid call) := by
  have hreply : ∀ result : Except LedgerRaised (LedgerResponse × Bool),
      Prog.Returns (M := ledgerMachine) (fun reply : LedgerReply => reply.session = sid)
        (.done ⟨sid, call, result⟩) := fun _ => rfl
  exact Prog.returns_bind hreply

/-! ## Every run -/

/-- A database before the calls: nothing is staged, and its keys and indexes
hold. -/
structure LedgerDatabase where
  rows : List LedgerTableRow
  distinct : rows.Pairwise fun a b => a.collides b = false
  owned : ∀ id row, .activity id row ∈ rows → ∃ header, .ledger id header ∈ rows

def LedgerDatabase.world (lib : LedgerLibrary) (traces : TraceStore) (database : LedgerDatabase) :
    World (ledgerSystem lib traces) :=
  ⟨⟨database.rows, []⟩, []⟩

theorem LedgerDatabase.inv (database : LedgerDatabase) :
    ledgerProtocol.inv (⟨database.rows, []⟩ : Db LedgerTableRow) := by
  refine ⟨?_, database.owned, nofun⟩
  unfold Distinct
  rw [List.map_nil, List.append_nil]
  exact database.distinct

/-- No call has started. -/
theorem none_started {database : LedgerDatabase} {P : Nat → Prog ledgerMachine LedgerReply → Prop}
    (sid : Nat) (p : Prog ledgerMachine LedgerReply)
    (h : (database.world lib traces).sessions[sid]? = some p) : P sid p := nomatch h

/-- A capture has one stored ledger. -/
theorem ledgersOf_single (h : Distinct LedgerTableRow.collides db) (captureId : Nat) :
    (ledgersOf db.stored captureId).length ≤ 1 := by
  have hstored : db.stored.Pairwise fun a b => a.collides b = false :=
    (List.pairwise_append.mp h).1
  have hnone : (ledgersOf db.stored captureId).Pairwise fun _ _ => False := by
    refine hstored.filterMap _ fun row row' hrow found hfound found' hfound' => ?_
    cases row with
    | activity id activity => cases hfound
    | ledger id header =>
        cases row' with
        | activity id activity => cases hfound'
        | ledger id' header' =>
            simp only [Option.ite_none_right_eq_some] at hfound hfound'
            have hcollides : (LedgerTableRow.ledger id header).collides (.ledger id' header') =
                true := by
              simp [LedgerTableRow.collides, hfound.1.1, hfound'.1.1, hfound.1.2, hfound'.1.2]
            rw [hrow] at hcollides
            cases hcollides
  match ledgersOf db.stored captureId, hnone with
  | [], _ => exact Nat.zero_le 1
  | [_], _ => exact Nat.le_refl 1
  | _ :: _ :: _, h => exact ((List.pairwise_cons.mp h).1 _ List.mem_cons_self).elim

theorem ledgersOf_unique (h : Distinct LedgerTableRow.collides db) {ledger ledger' : NativeLedger}
    (hledger : ledger ∈ ledgersOf db.stored captureId)
    (hledger' : ledger' ∈ ledgersOf db.stored captureId) : ledger' = ledger := by
  match hfound : ledgersOf db.stored captureId, ledgersOf_single h captureId with
  | [], _ => rw [hfound] at hledger; cases hledger
  | [found], _ =>
      rw [hfound] at hledger hledger'
      rw [List.mem_singleton.mp hledger, List.mem_singleton.mp hledger']

theorem findCaptureForTransaction_run {runId : Nat} {transactionHash : String}
    {capture : TraceCapture}
    (h : findCaptureForTransaction traces.captures runId transactionHash = .ok (some capture)) :
    capture.runId = runId := by
  unfold findCaptureForTransaction at h
  split at h
  · cases h
  · next found hfound =>
      cases h
      have hmem : capture ∈ traces.captures.filter _ := hfound ▸ List.mem_singleton_self _
      exact (of_decide_eq_true (List.mem_filter.mp hmem).2).1
  · cases h

theorem revalidateLedger_rows {store : LedgerStore} {runId : Nat} {transactionHash : String}
    {rows : List ActivityRow}
    (h : revalidateLedger lib store ledger runId transactionHash = .ok rows) :
    rows = ledger.rows.insertionSort fun a b => a.ordinal ≤ b.ordinal := by
  obtain ⟨derived, -, h⟩ := bind_eq_ok.mp h
  obtain ⟨_, hcheck, h⟩ := bind_eq_ok.mp h
  cases h
  obtain ⟨-, -, -, -, -, -, -, -, hrows, -⟩ := check_eq_ok.mp hcheck
  exact hrows.symm

/-- The responses of one ledger differ in the anchor only. -/
theorem ledgerResponse_congr {runId : Nat} {hash hash' : String}
    {response response' : LedgerResponse}
    (h : ledgerResponse lib traces ledger runId hash = .ok response)
    (h' : ledgerResponse lib traces ledger runId hash' = .ok response') :
    { response' with anchor := response.anchor } = response := by
  obtain ⟨rows, hrows, h⟩ := bind_eq_ok.mp h
  obtain ⟨source, -, h⟩ := bind_eq_ok.mp h
  obtain ⟨rows', hrows', h'⟩ := bind_eq_ok.mp h'
  obtain ⟨source', -, h'⟩ := bind_eq_ok.mp h'
  cases h
  cases h'
  rw [revalidateLedger_rows hrows, revalidateLedger_rows hrows']

/-- The call of a session has the capture. -/
def LedgerCall.Of (traces : TraceStore) (call : LedgerCall) (capture : TraceCapture) : Prop :=
  findCaptureForTransaction traces.captures call.runId call.transactionHash = .ok (some capture)

/-- What holds of the ledgers and of the calls that have ended, after any
run of calls: a capture has one ledger; the calls that succeed for one
capture return one ledger, with the anchor each asks for; a call that has
ended has nothing staged, and stored nothing if it failed. -/
structure BuiltOnce (world : World (ledgerSystem lib traces)) : Prop where
  single : ∀ captureId, (ledgersOf (Db.stored world.state) captureId).length ≤ 1
  answered : ∀ (sid : Nat) (reply : LedgerReply) (response : LedgerResponse) (created : Bool),
    world.sessions[sid]? = some (.done reply) → reply.result = .ok (response, created) →
    ∃ capture ledger, reply.call.Of traces capture ∧
      ledger ∈ ledgersOf (Db.stored world.state) capture.id ∧
      ledgerResponse lib traces ledger reply.call.runId reply.call.transactionHash = .ok response
  same : ∀ (sid sid' : Nat) (reply reply' : LedgerReply) (response response' : LedgerResponse)
    (created created' : Bool) (capture : TraceCapture),
    world.sessions[sid]? = some (.done reply) → world.sessions[sid']? = some (.done reply') →
    reply.result = .ok (response, created) → reply'.result = .ok (response', created') →
    reply.call.Of traces capture → reply'.call.Of traces capture →
    { response' with anchor := response.anchor } = response
  unstaged : ∀ (sid : Nat) (reply : LedgerReply), world.sessions[sid]? = some (.done reply) →
    Db.own world.state sid = []
  failed : ∀ (sid : Nat) (answers : (q : ledgerMachine.Query) → ledgerMachine.Answer q)
    (later : World (ledgerSystem lib traces)) (reply : LedgerReply) (raised : LedgerRaised),
    Reaches (world.step (.run sid answers)) later → later.sessions[sid]? = some (.done reply) →
    reply.result = .error raised →
    Db.stored (world.step (.run sid answers)).state = Db.stored world.state

/-- What a step stores, its session has just replied with. -/
theorem stored_step {world : World (ledgerSystem lib traces)}
    (programs : ∀ (sid : Nat) (p : Prog ledgerMachine LedgerReply), world.sessions[sid]? = some p →
      StoresLast Stores (fun reply => Created reply.result) p)
    (answers : (q : ledgerMachine.Query) → ledgerMachine.Answer q) :
    Db.stored (world.step (.run sid answers)).state = Db.stored world.state ∨
      ∃ reply, (world.step (.run sid answers)).sessions[sid]? = some (.done reply) ∧
        Created reply.result := by
  cases hp : world.sessions[sid]? with
  | none =>
      have same : world.step (.run sid answers) = world := by simp only [World.step, hp]
      exact .inl (by rw [same])
  | some p =>
      rw [World.step_run hp]
      cases p with
      | done value => exact .inl rfl
      | ask query next => exact .inl rfl
      | read next => exact .inl rfl
      | write w next =>
          obtain heq | ⟨hcommit, -⟩ := @OpenTransactions.stored_execute _
            LedgerTableRow.collides world.state w.1 w.2
          · exact .inl heq
          · obtain ⟨reply, hdone, hcreated⟩ :=
              (OpenTransactions.storesLast_advance (programs sid _ hp) answers world.state).2 w rfl
                hcommit
            refine .inr ⟨reply, ?_, hcreated⟩
            exact (List.getElem?_set_self (List.getElem?_eq_some_iff.mp hp).1).trans
              (congrArg some hdone)

theorem ledgers_built_once (database : LedgerDatabase) (world : World (ledgerSystem lib traces))
    (reached : Reaches (database.world lib traces) world) : BuiltOnce world := by
  obtain ⟨⟨hdistinct, -⟩, promised⟩ : ledgerProtocol.inv world.state ∧
      ledgerProtocol.Promised (RepliesLedger lib traces) world :=
    Protocol.Promised.run (fun sid call => ledgerSession_triple call) none_started database.inv
      (reached.mono fun _ _ _ _ => trivial)
  have programs := OpenTransactions.sessions_reached
    (I := fun _ => StoresLast (M := ledgerMachine) Stores fun reply : LedgerReply =>
      Created reply.result)
    (fun sid call => ledgerSession_stores call)
    (fun _ _ answers s h => (OpenTransactions.storesLast_advance h answers s).1)
    none_started reached
  have sessions := OpenTransactions.sessions_reached
    (I := fun sid p => Prog.Returns (M := ledgerMachine) (fun reply : LedgerReply =>
      reply.session = sid) p)
    (fun _ _ => ledgerSession_returns)
    (fun _ _ answers s h => OpenTransactions.returns_advance h answers s)
    none_started reached
  -- what a session that has replied promised holds
  have replied : ∀ (sid : Nat) (reply : LedgerReply), world.sessions[sid]? = some (.done reply) →
      RepliesLedger lib traces reply world.state := by
    intro sid reply h
    obtain ⟨s, hs, hpre⟩ := promised sid _ h
    have hsession : reply.session = sid := sessions sid _ h
    subst hsession
    exact ⟨unstaged_stable.rely hs hpre.1, returned_stable.rely hs hpre.2⟩
  have answered : ∀ (sid : Nat) (reply : LedgerReply) (response : LedgerResponse) (created : Bool),
      world.sessions[sid]? = some (.done reply) → reply.result = .ok (response, created) →
      ∃ capture ledger, reply.call.Of traces capture ∧
        ledger ∈ ledgersOf (Db.stored world.state) capture.id ∧
        ledgerResponse lib traces ledger reply.call.runId reply.call.transactionHash =
          .ok response := by
    intro sid reply response created h hresult
    obtain ⟨-, capture, hcapture, ledger, hstored, hresponse⟩ :=
      (replied sid reply h).2 response created hresult
    exact ⟨capture, ledger, hcapture, hstored, hresponse⟩
  refine ⟨ledgersOf_single hdistinct, answered, ?_, ?_, ?_⟩
  · intro sid sid' reply reply' response response' created created' capture h h' hresult hresult'
      hof hof'
    obtain ⟨found, ledger, hfound, hstored, hresponse⟩ :=
      answered sid reply response created h hresult
    obtain ⟨found', ledger', hfound', hstored', hresponse'⟩ :=
      answered sid' reply' response' created' h' hresult'
    cases hof.symm.trans hfound
    cases hof'.symm.trans hfound'
    have hledger : ledger' = ledger := ledgersOf_unique hdistinct hstored hstored'
    have hrun : reply'.call.runId = reply.call.runId :=
      (findCaptureForTransaction_run hof').symm.trans (findCaptureForTransaction_run hof)
    rw [hledger, hrun] at hresponse'
    exact ledgerResponse_congr hresponse hresponse'
  · intro sid reply h
    have hsession : reply.session = sid := sessions sid _ h
    exact hsession ▸ (replied sid reply h).1
  · intro sid answers later reply raised hlater hreply hresult
    obtain heq | ⟨reply', hdone, response, hcreated⟩ := stored_step programs answers
    · exact heq
    · cases (OpenTransactions.done_reaches hlater hdone).symm.trans hreply
      cases hcreated.symm.trans hresult

/-! ## A race -/

def smallLedgerLibrary : LedgerLibrary where
  toBocLibrary := smallLibrary
  digestActivity _ _ _ := smallHash 'b'
  digestLedger _ := smallHash 'c'

def smallCall : LedgerCall := ⟨1, smallHash '2'⟩

/-- Ledgers get the number of their session. -/
def sampleLedgerAnswers (sid : Nat) : (q : ledgerMachine.Query) → ledgerMachine.Answer q
  | .now => (⟨0, zero_lt_maxMicros⟩ : Instant)
  | .ledgerId => (sid : Nat)
  | .statement => StatementFate.runs

def emptyLedgers : LedgerDatabase := ⟨[], .nil, nofun⟩

/-- Both sessions find no ledger; the first stores one before the second
stages its own. -/
def ledgerMoves : List (Move (ledgerSystem smallLedgerLibrary smallStore)) :=
  [.launch smallCall, .launch smallCall] ++ List.replicate 3 (.run 1 (sampleLedgerAnswers 1)) ++
    List.replicate 13 (.run 0 (sampleLedgerAnswers 0)) ++
    List.replicate 10 (.run 1 (sampleLedgerAnswers 1))

def ledgerRace : World (ledgerSystem smallLedgerLibrary smallStore) :=
  ledgerMoves.foldl World.step (emptyLedgers.world smallLedgerLibrary smallStore)

/-- The ledgers the calls have returned, and whether they stored them. -/
def builtLedgers (world : World (ledgerSystem lib traces)) : List (Option (Nat × Bool)) :=
  world.sessions.map fun p => match (p : Prog ledgerMachine LedgerReply) with
    | .done reply => reply.result.toOption.map fun value => (value.1.ledgerId, value.2)
    | _ => none

theorem ledgers_built_once_race :
    builtLedgers ledgerRace = [some (0, true), some (0, false)] ∧ BuiltOnce ledgerRace :=
  ⟨by decide +kernel,
    ledgers_built_once emptyLedgers ledgerRace (Session.reaches_foldl ledgerMoves _)⟩

end TonTracker
