/-
# `Syncs.FingerprintsSeparate` — equal fingerprints, equal requests

Each document that is fingerprinted is canonical JSON (`members_canonical`,
`document_canonical`), so its octets are those of no other document, and a
document says no more and no less than what its request asks for
(`syncRequestDocument_eq_iff`, `document_inj`).  In a run, the row that a
session queues carries the fingerprint of that session's request
(`queued_asks`).
-/
import TonTracker.Syncs.Lifecycle
import TonTracker.Services.RequestFingerprints
import TonTracker.Cursors.CanonicalJson

namespace TonTracker

open Base64 (Octet)
open Json (canonical_null canonical_int canonical_str canonical_obj)
open ExceptFold (bind_eq_ok)
open Session (Event Move Recorded Visited World)

/-! ## What a document says -/

theorem contentId_inj {tag : String} {id id' : HexDigest} :
    plainTexts.contentId tag id = plainTexts.contentId tag id' ↔ id = id' := by
  refine ⟨fun h => ?_, fun h => by rw [h]⟩
  have htext : tag.toList ++ id.text = tag.toList ++ id'.text := Json.str.inj h
  obtain ⟨text, length, hex⟩ := id
  obtain ⟨text', length', hex'⟩ := id'
  cases List.append_cancel_left htext
  rfl

theorem idOrNull_inj {tag : String} {id id' : Option HexDigest} :
    idOrNull tag id = idOrNull tag id' ↔ id = id' := by
  refine ⟨fun h => ?_, fun h => by rw [h]⟩
  cases id <;> cases id'
  · rfl
  · cases h
  · cases h
  · rw [contentId_inj.mp h]

theorem budgetOrNull_inj {budget budget' : Option PageBudget} :
    budgetOrNull budget = budgetOrNull budget' ↔ budget = budget' := by
  refine ⟨fun h => ?_, fun h => by rw [h]⟩
  cases budget with
  | none =>
      cases budget' with
      | none => rfl
      | some budget' => cases h
  | some budget =>
      cases budget' with
      | none => cases h
      | some budget' =>
          obtain ⟨val, pos, bounded⟩ := budget
          obtain ⟨val', pos', bounded'⟩ := budget'
          cases Int.ofNat.inj (Json.int.inj h)
          rfl

theorem textOrNull_inj {text text' : Option Text} :
    textOrNull text = textOrNull text' ↔ text = text' := by
  refine ⟨fun h => ?_, fun h => by rw [h]⟩
  cases text <;> cases text' <;> cases h <;> rfl

/-- Arguments that a caller may pass: a budget or a schedule comes with a
plan, and the provenance of a schedule with the schedule. -/
structure ResumeArguments.Coherent (a : ResumeArguments) : Prop where
  planned : a.continuationPlan = none → a.pageBudget = none ∧ a.backfillSchedule = none
  scheduled : a.backfillSchedule = none → a.backfillProgress = none ∧ a.checkpointCutoff = none

theorem ResumeAuthority.coherent (checkpoint : HexDigest) (authority : ResumeAuthority HexDigest) :
    (authority.arguments checkpoint).Coherent := by
  cases authority <;> exact ⟨by simp [arguments], by simp [arguments]⟩

/-- Each argument is read back from the document. -/
structure ResumeArguments.ReadFrom (a : ResumeArguments) (document : CursorDocument) : Prop where
  checkpoint : Json.get document "checkpoint_public_id" = plainTexts.contentId "scp_" a.checkpoint
  plan : Json.get document "continuation_plan_public_id" = idOrNull "cpl_" a.continuationPlan
  budget : Json.get document "page_budget" = budgetOrNull a.pageBudget
  schedule : Json.get document "backfill_schedule_public_id" = idOrNull "bfs_" a.backfillSchedule
  progress : Json.get document "backfill_progress_public_id" = idOrNull "bfp_" a.backfillProgress
  cutoff : Json.get document "backfill_checkpoint_cutoff_public_id" =
    idOrNull "scp_" a.checkpointCutoff

theorem ResumeArguments.Coherent.read {a : ResumeArguments} (h : a.Coherent) :
    a.ReadFrom a.document := by
  obtain ⟨checkpoint, plan, budget, schedule, progress, cutoff⟩ := a
  obtain ⟨hplan, hschedule⟩ := h
  cases schedule with
  | some schedule =>
      cases progress <;> cases cutoff <;> exact ⟨rfl, rfl, rfl, rfl, rfl, rfl⟩
  | none =>
      obtain ⟨rfl, rfl⟩ : progress = none ∧ cutoff = none := hschedule rfl
      cases plan with
      | none =>
          obtain rfl : budget = none := (hplan rfl).1
          exact ⟨rfl, rfl, rfl, rfl, rfl, rfl⟩
      | some plan => cases budget <;> exact ⟨rfl, rfl, rfl, rfl, rfl, rfl⟩

theorem document_inj {a b : ResumeArguments} (ha : a.Coherent) (hb : b.Coherent) :
    a.document = b.document ↔ a = b := by
  refine ⟨fun h => ?_, fun h => by rw [h]⟩
  have read := ha.read
  rw [h] at read
  obtain ⟨checkpoint, plan, budget, schedule, progress, cutoff⟩ := a
  obtain ⟨checkpoint', plan', budget', schedule', progress', cutoff'⟩ := b
  cases contentId_inj.mp (read.checkpoint.symm.trans hb.read.checkpoint)
  cases idOrNull_inj.mp (read.plan.symm.trans hb.read.plan)
  cases budgetOrNull_inj.mp (read.budget.symm.trans hb.read.budget)
  cases idOrNull_inj.mp (read.schedule.symm.trans hb.read.schedule)
  cases idOrNull_inj.mp (read.progress.symm.trans hb.read.progress)
  cases idOrNull_inj.mp (read.cutoff.symm.trans hb.read.cutoff)
  rfl

/-! ## What a sync request asks for -/

/-- The same mode, window and instants, and the same set of surfaces. -/
structure SyncRequest.SameWork (r r' : SyncRequest) : Prop where
  mode : r.mode = r'.mode
  timeWindow : r.timeWindow = r'.timeWindow
  customStart : r.customStart.map parseCanonicalTimestamp =
    r'.customStart.map parseCanonicalTimestamp
  customEnd : r.customEnd.map parseCanonicalTimestamp = r'.customEnd.map parseCanonicalTimestamp
  surfaces : ∀ surface, surface ∈ r.surfaces ↔ surface ∈ r'.surfaces

/-- A custom bound is written as its instant. -/
theorem canonicalBound {bound written : Option Text}
    (h : bound.mapM canonicalRequestTimestamp = .ok written) :
    ∃ instant : Option Instant, bound.map parseCanonicalTimestamp = instant.map .ok ∧
      written = instant.map Instant.isoformat := by
  cases bound with
  | none =>
      cases h
      exact ⟨none, rfl, rfl⟩
  | some text =>
      obtain ⟨canonical, hcanonical, hwritten⟩ := bind_eq_ok.mp h
      cases hwritten
      unfold canonicalRequestTimestamp at hcanonical
      split at hcanonical
      · cases hparse : parseCanonicalTimestamp text with
        | error error =>
            rw [hparse] at hcanonical
            cases hcanonical
        | ok instant =>
            rw [hparse] at hcanonical
            cases hcanonical
            exact ⟨some instant, by rw [Option.map_some, hparse]; rfl, rfl⟩
      · cases hcanonical

theorem isoformat_injective : Function.Injective Instant.isoformat :=
  fun _ _ h => Instant.isoformat_inj.mp h

theorem ok_injective : Function.Injective (Except.ok : Instant → Except TimestampError Instant) :=
  fun _ _ h => Except.ok.inj h

theorem mem_surfaceOrder (surface : Surface) : surface ∈ surfaceOrder := by
  cases surface <;> decide

theorem filter_surfaceOrder {surfaces surfaces' : List Surface} :
    surfaceOrder.filter surfaces.contains = surfaceOrder.filter surfaces'.contains ↔
      ∀ surface, surface ∈ surfaces ↔ surface ∈ surfaces' := by
  constructor
  · intro h surface
    have hmem : surface ∈ surfaceOrder.filter surfaces.contains ↔
        surface ∈ surfaceOrder.filter surfaces'.contains := by rw [h]
    simpa [List.mem_filter, mem_surfaceOrder] using hmem
  · intro h
    refine List.filter_congr fun surface _ => ?_
    rw [Bool.eq_iff_iff, List.contains_iff_mem, List.contains_iff_mem]
    exact h surface

/-- Equal documents ask for the same work, and the other way round. -/
theorem syncRequestDocument_eq_iff {r r' : SyncRequest} {d d' : RequestDocument}
    (h : syncRequestDocument r = .ok d) (h' : syncRequestDocument r' = .ok d') :
    d = d' ↔ r.SameWork r' := by
  obtain ⟨start, hstart, h⟩ := bind_eq_ok.mp h
  obtain ⟨stop, hstop, h⟩ := bind_eq_ok.mp h
  obtain ⟨start', hstart', h'⟩ := bind_eq_ok.mp h'
  obtain ⟨stop', hstop', h'⟩ := bind_eq_ok.mp h'
  cases h
  cases h'
  obtain ⟨t, ht, rfl⟩ := canonicalBound hstart
  obtain ⟨u, hu, rfl⟩ := canonicalBound hstop
  obtain ⟨t', ht', rfl⟩ := canonicalBound hstart'
  obtain ⟨u', hu', rfl⟩ := canonicalBound hstop'
  have instants : ∀ t t' : Option Instant, t.map Instant.isoformat = t'.map Instant.isoformat ↔
      t.map (.ok : Instant → Except TimestampError Instant) = t'.map .ok := fun t t' => by
    rw [(Option.map_injective isoformat_injective).eq_iff,
      (Option.map_injective ok_injective).eq_iff]
  rw [RequestDocument.sync.injEq, instants, instants, filter_surfaceOrder]
  constructor
  · rintro ⟨hmode, hwindow, hstart, hstop, hsurfaces⟩
    exact ⟨hmode, hwindow, by rw [ht, ht', hstart], by rw [hu, hu', hstop], hsurfaces⟩
  · rintro ⟨hmode, hwindow, hstart, hstop, hsurfaces⟩
    exact ⟨hmode, hwindow, by rw [← ht, ← ht', hstart], by rw [← hu, ← hu', hstop], hsurfaces⟩

/-! ## Canonical documents -/

theorem SyncMode.text_injective : ∀ mode mode' : SyncMode, mode.text.toList = mode'.text.toList →
    mode = mode' := by
  intro mode mode' h
  cases mode <;> cases mode' <;> first | rfl | exact absurd h (by decide)

theorem TimeWindow.text_injective : ∀ window window' : TimeWindow,
    window.text.toList = window'.text.toList → window = window' := by
  intro window window' h
  cases window <;> cases window' <;> first | rfl | exact absurd h (by decide)

theorem Surface.text_injective : Function.Injective fun surface : Surface =>
    Json.str surface.text.toList := by
  intro surface surface' h
  have h := Json.str.inj h
  cases surface <;> cases surface' <;> first | rfl | exact absurd h (by decide)

/-- Documents of syncs are those of the same request. -/
theorem syncMembers_inj {mode mode' : SyncMode} {window window' : TimeWindow}
    {start stop start' stop' : Option Text} {surfaces surfaces' : List Surface} :
    syncFingerprintDocument mode window start stop surfaces =
        syncFingerprintDocument mode' window' start' stop' surfaces' ↔
      RequestDocument.sync mode window start stop surfaces =
        .sync mode' window' start' stop' surfaces' := by
  refine ⟨fun h => ?_, fun h => by cases h; rfl⟩
  simp only [syncFingerprintDocument, List.cons.injEq, Prod.mk.injEq, true_and, and_true,
    textOrNull_inj, Json.str.injEq, Json.arr.injEq] at h
  obtain ⟨hstop, hstart, hmode, hsurfaces, hwindow⟩ := h
  rw [hstop, hstart, SyncMode.text_injective _ _ hmode, TimeWindow.text_injective _ _ hwindow,
    List.map_injective_iff.mpr Surface.text_injective hsurfaces]

/-- No document of a continuation is that of a sync. -/
theorem document_ne_sync (a : ResumeArguments) (mode : SyncMode) (window : TimeWindow)
    (start stop : Option Text) (surfaces : List Surface) :
    a.document ≠ syncFingerprintDocument mode window start stop surfaces := by
  intro h
  have hmode : Json.get a.document "mode" = .null := by
    unfold ResumeArguments.document
    split
    · split <;> rfl
    · split
      · split <;> rfl
      · rfl
  rw [h] at hmode
  exact nomatch (hmode : Json.str mode.text.toList = .null)

theorem canonical_contentId {tag : String} (h : tag.toList.all isPlain = true) (id : HexDigest) :
    (plainTexts.contentId tag id).Canonical := by
  refine canonical_str ?_
  rw [List.all_append, h]
  exact id.plain

theorem canonical_idOrNull {tag : String} (h : tag.toList.all isPlain = true)
    (id : Option HexDigest) : (idOrNull tag id).Canonical := by
  cases id with
  | none => exact canonical_null
  | some id => exact canonical_contentId h id

theorem canonical_budgetOrNull (budget : Option PageBudget) : (budgetOrNull budget).Canonical := by
  cases budget with
  | none => exact canonical_null
  | some budget => exact canonical_int _

theorem document_canonical (a : ResumeArguments) : (Json.obj a.document).Canonical := by
  have scp : "scp_".toList.all isPlain = true := by decide
  have cpl : "cpl_".toList.all isPlain = true := by decide
  have bfs : "bfs_".toList.all isPlain = true := by decide
  have bfp : "bfp_".toList.all isPlain = true := by decide
  unfold ResumeArguments.document
  split
  · split
    · refine canonical_obj ["backfill_checkpoint_cutoff_public_id", "backfill_progress_public_id",
        "backfill_schedule_public_id", "checkpoint_public_id", "continuation_plan_public_id",
        "contract", "page_budget"] rfl (by decide) (by decide) ?_
      simp only [List.forall_mem_cons]
      exact ⟨canonical_idOrNull scp _, canonical_idOrNull bfp _, canonical_contentId bfs _,
        canonical_contentId scp _, canonical_idOrNull cpl _, canonical_str (by decide),
        canonical_budgetOrNull _, fun _ h => absurd h List.not_mem_nil⟩
    · refine canonical_obj ["backfill_schedule_public_id", "checkpoint_public_id",
        "continuation_plan_public_id", "contract", "page_budget"] rfl (by decide) (by decide) ?_
      simp only [List.forall_mem_cons]
      exact ⟨canonical_contentId bfs _, canonical_contentId scp _, canonical_idOrNull cpl _,
        canonical_str (by decide), canonical_budgetOrNull _, fun _ h => absurd h List.not_mem_nil⟩
  · split
    · split
      · refine canonical_obj ["checkpoint_public_id", "continuation_plan_public_id", "contract"]
          rfl (by decide) (by decide) ?_
        simp only [List.forall_mem_cons]
        exact ⟨canonical_contentId scp _, canonical_contentId cpl _, canonical_str (by decide),
          fun _ h => absurd h List.not_mem_nil⟩
      · refine canonical_obj ["checkpoint_public_id", "continuation_plan_public_id", "contract",
          "page_budget"] rfl (by decide) (by decide) ?_
        simp only [List.forall_mem_cons]
        exact ⟨canonical_contentId scp _, canonical_contentId cpl _, canonical_str (by decide),
          canonical_int _, fun _ h => absurd h List.not_mem_nil⟩
    · refine canonical_obj ["checkpoint_public_id", "contract"] rfl (by decide) (by decide) ?_
      simp only [List.forall_mem_cons]
      exact ⟨canonical_contentId scp _, canonical_str (by decide), fun _ h => absurd h List.not_mem_nil⟩

theorem canonical_bound (instant : Option Instant) :
    (textOrNull (instant.map Instant.isoformat)).Canonical := by
  cases instant with
  | none => exact canonical_null
  | some t => exact canonical_str (isoformat_plain t)

/-- The document of an accepted sync request. -/
theorem members_canonical {request : SyncRequest} {d : RequestDocument}
    (h : syncRequestDocument request = .ok d) : (Json.obj d.members).Canonical := by
  obtain ⟨start, hstart, h⟩ := bind_eq_ok.mp h
  obtain ⟨stop, hstop, h⟩ := bind_eq_ok.mp h
  cases h
  obtain ⟨t, -, rfl⟩ := canonicalBound hstart
  obtain ⟨u, -, rfl⟩ := canonicalBound hstop
  have mode : ∀ mode : SyncMode, mode.text.toList.all isPlain = true := by
    intro mode
    cases mode <;> decide
  have window : ∀ window : TimeWindow, window.text.toList.all isPlain = true := by
    intro window
    cases window <;> decide
  have surface : ∀ surface : Surface, surface.text.toList.all isPlain = true := by
    intro surface
    cases surface <;> decide
  refine canonical_obj ["contract", "custom_end", "custom_start", "mode", "surfaces",
    "time_window"] rfl (by decide) (by decide) ?_
  rw [RequestDocument.members, syncFingerprintDocument]
  simp only [List.forall_mem_cons]
  refine ⟨canonical_str (by decide), canonical_bound u, canonical_bound t, canonical_str (mode _),
    ?_, canonical_str (window _), fun _ h => absurd h List.not_mem_nil⟩
  rw [Json.Canonical, Json.canonicalItems_iff]
  intro value hvalue
  obtain ⟨s, -, rfl⟩ := List.mem_map.mp hvalue
  exact canonical_str (surface s)

theorem arguments_inj {checkpoint checkpoint' : HexDigest}
    {authority authority' : ResumeAuthority HexDigest} :
    authority.arguments checkpoint = authority'.arguments checkpoint' ↔
      checkpoint = checkpoint' ∧ authority = authority' := by
  refine ⟨fun h => ?_, fun ⟨hcheckpoint, h⟩ => by rw [hcheckpoint, h]⟩
  cases authority <;> cases authority' <;> cases h <;> exact ⟨rfl, rfl⟩

theorem RequestDocument.members_inj {d d' : RequestDocument} :
    d.members = d'.members ↔ d = d' := by
  cases d with
  | sync mode window start stop surfaces =>
      cases d' with
      | sync mode' window' start' stop' surfaces' => exact syncMembers_inj
      | checkpointResume checkpoint authority =>
          exact ⟨fun h => absurd h.symm (document_ne_sync _ _ _ _ _ _), fun h => nomatch h⟩
  | checkpointResume checkpoint authority =>
      cases d' with
      | sync mode window start stop surfaces =>
          exact ⟨fun h => absurd h (document_ne_sync _ _ _ _ _ _), fun h => nomatch h⟩
      | checkpointResume checkpoint' authority' =>
          rw [RequestDocument.checkpointResume.injEq, ← arguments_inj]
          exact document_inj (authority.coherent checkpoint) (authority'.coherent checkpoint')

/-! ## The two functions -/

/-- What is fingerprinted: a sync request, or the arguments of a
continuation. -/
inductive FingerprintedRequest where
  | sync (request : SyncRequest)
  | resume (arguments : ResumeArguments)

namespace FingerprintedRequest

/-- Its document; a custom bound that is not a timestamp raises. -/
def document : FingerprintedRequest → Except TimestampError CursorDocument
  | .sync request => (syncRequestDocument request).map RequestDocument.members
  | .resume a => .ok a.document

def Coherent : FingerprintedRequest → Prop
  | .sync _ => True
  | .resume a => a.Coherent

def SameWork : FingerprintedRequest → FingerprintedRequest → Prop
  | .sync r, .sync r' => r.SameWork r'
  | .resume a, .resume b => a = b
  | _, _ => False

variable {r r' : FingerprintedRequest} {d d' : CursorDocument}

theorem document_canonical (h : r.document = .ok d) : (Json.obj d).Canonical := by
  cases r with
  | sync request =>
      cases hdocument : syncRequestDocument request with
      | error error =>
          rw [document, hdocument] at h
          cases h
      | ok written =>
          rw [document, hdocument] at h
          cases h
          exact members_canonical hdocument
  | resume a =>
      cases h
      exact TonTracker.document_canonical a

/-- Documents are equal where the requests ask for the same work. -/
theorem document_eq_iff (hr : r.Coherent) (hr' : r'.Coherent) (h : r.document = .ok d)
    (h' : r'.document = .ok d') : d = d' ↔ r.SameWork r' := by
  have written : ∀ {request : SyncRequest} {d : CursorDocument},
      (sync request).document = .ok d → ∃ document, syncRequestDocument request = .ok document ∧
        d = document.members := by
    intro request d h
    cases hdocument : syncRequestDocument request with
    | error error =>
        rw [document, hdocument] at h
        cases h
    | ok written =>
        rw [document, hdocument] at h
        cases h
        exact ⟨written, rfl, rfl⟩
  have never : ∀ {request : SyncRequest} {d : CursorDocument} {a : ResumeArguments},
      (sync request).document = .ok d → a.document ≠ d := by
    intro request d a h
    obtain ⟨document, hdocument, rfl⟩ := written h
    obtain ⟨start, -, hdocument⟩ := bind_eq_ok.mp hdocument
    obtain ⟨stop, -, hdocument⟩ := bind_eq_ok.mp hdocument
    cases hdocument
    exact document_ne_sync _ _ _ _ _ _
  cases r with
  | sync request =>
      cases r' with
      | sync request' =>
          obtain ⟨w, hw, rfl⟩ := written h
          obtain ⟨w', hw', rfl⟩ := written h'
          rw [RequestDocument.members_inj]
          exact syncRequestDocument_eq_iff hw hw'
      | resume a =>
          cases h'
          exact ⟨fun heq => absurd heq.symm (never h), fun hsame => hsame.elim⟩
  | resume a =>
      cases r' with
      | sync request =>
          cases h
          exact ⟨fun heq => absurd heq (never h'), fun hsame => hsame.elim⟩
      | resume b =>
          cases h
          cases h'
          exact document_inj hr hr'

end FingerprintedRequest

variable {lib : CursorLibrary} {sha256 : List Octet → HexDigest}

/-- Where no two of these octets collide, fingerprints separate documents. -/
theorem documentFingerprint_eq_iff {d d' : CursorDocument} (hd : (Json.obj d).Canonical)
    (hd' : (Json.obj d').Canonical) {hashed : Set (List Octet)} (free : Set.InjOn sha256 hashed)
    (hmem : ∀ octets, canonicalOctets lib d = some octets → octets ∈ hashed)
    (hmem' : ∀ octets, canonicalOctets lib d' = some octets → octets ∈ hashed) :
    documentFingerprint lib sha256 d = documentFingerprint lib sha256 d' ↔ d = d' := by
  refine ⟨fun h => ?_, fun h => by rw [h]⟩
  have octets : ∀ {d}, (Json.obj d).Canonical → ∃ octets, canonicalOctets lib d = some octets :=
    fun h => ⟨_, by rw [canonicalOctets, Json.dumpedText_eq h, Option.map_some]⟩
  obtain ⟨o, ho⟩ := octets hd
  obtain ⟨o', ho'⟩ := octets hd'
  rw [documentFingerprint, documentFingerprint, ho, ho', Option.map_some, Option.map_some] at h
  have same := free (hmem o ho) (hmem' o' ho') (Option.some.inj h)
  have heq : canonicalOctets lib d = canonicalOctets lib d' := by rw [ho, ho', same]
  exact Json.obj.inj ((Json.dumpedOctets_inj hd hd').mp heq)

/-! ## The requests of a run -/

/-- The document an entry's program fingerprints, when it reads such stores. -/
inductive Asks (sha : Sha256) (inv : Store → Prop) : Entry → RequestDocument → Prop
  | sync {owner : Text} {casePublicId : Uuid} {request : SyncRequest} {key : Text}
      {document : RequestDocument} (h : syncRequestDocument request = .ok document) :
      Asks sha inv (.enqueueSync owner casePublicId request key) document
  | direct {owner : Text} {casePublicId : Uuid} {checkpoint : HexDigest} {key : Text} :
      Asks sha inv (.enqueueCheckpointResume owner casePublicId checkpoint key)
        (.checkpointResume checkpoint .direct)
  | plan {owner : Text} {casePublicId : Uuid} {continuationPlan checkpoint : HexDigest}
      {budget : PageBudget} {key : Text} :
      Asks sha inv (.enqueuePlanResume owner casePublicId continuationPlan checkpoint budget key)
        (.checkpointResume checkpoint (.plan continuationPlan budget))
  | schedule {owner : Text} {casePublicId : Uuid} {schedule checkpoint : HexDigest}
      {budget : PageBudget} {key : Text} {document : ScheduleDocument}
      {authority : ResumeAuthority HexDigest}
      (h : Authorizes sha inv casePublicId schedule budget document checkpoint authority) :
      Asks sha inv (.enqueueBackfillSchedule owner casePublicId schedule budget key)
        (.checkpointResume checkpoint authority)

def Entry.Enqueues : Entry → Prop
  | .enqueueSync _ _ _ _ => True
  | .enqueueCheckpointResume _ _ _ _ => True
  | .enqueuePlanResume _ _ _ _ _ _ => True
  | .enqueueBackfillSchedule _ _ _ _ _ => True
  | _ => False

/-- Two entries ask for the same work; the checkpoint and the plan of a
scheduled continuation are those of its schedule. -/
def Entry.SameWork : Entry → Entry → Prop
  | .enqueueSync _ _ r _, .enqueueSync _ _ r' _ => r.SameWork r'
  | .enqueueCheckpointResume _ _ c _, .enqueueCheckpointResume _ _ c' _ => c = c'
  | .enqueuePlanResume _ _ p c b _, .enqueuePlanResume _ _ p' c' b' _ => p = p' ∧ c = c' ∧ b = b'
  | .enqueueBackfillSchedule _ _ s b _, .enqueueBackfillSchedule _ _ s' b' _ => s = s' ∧ b = b'
  | _, _ => False

/-- The row is one that a session with this entry has queued. -/
structure QueuedBy {sha : Sha256} (history : List (Event (caseSystem sha))) (entry : Entry)
    (row : SyncRow) : Prop where
  enqueues : entry.Enqueues
  committed : ∃ sid inserted s, Event.launched sid entry ∈ history ∧
    Event.committed sid (Write.insertSync inserted) s ∈ history ∧ row.fixed = inserted.fixed

/-- No two documents that a run fingerprints have one hash, and no two
schedules that it names. -/
structure CollisionFreeRun (lib : CursorLibrary) (sha256 : List Octet → HexDigest) {sha : Sha256}
    (history : List (Event (caseSystem sha))) : Prop where
  requests : Set.InjOn sha256 {octets | ∃ sid entry document,
    Event.launched sid entry ∈ history ∧ Asks sha (Visited Store.empty history) entry document ∧
      canonicalOctets lib document.members = some octets}
  schedules : Set.InjOn (fun document => sha (.schedule document)) {document |
    ∃ sid owner casePublicId schedule budget key,
      Event.launched sid (Entry.enqueueBackfillSchedule owner casePublicId schedule budget key) ∈
        history ∧
      BuiltSchedule sha (Visited Store.empty history) casePublicId budget ⟨schedule, document⟩}

section Runs

variable {sha : Sha256} {inv : Store → Prop} {history : List (Event (caseSystem sha))}
  {world : World (caseSystem sha)} {P : List (Event (caseSystem sha)) → World (caseSystem sha) →
    Move (caseSystem sha) → Prop}

theorem BuiltSchedule.publicId {casePublicId : Uuid} {budget : PageBudget}
    {schedule : Addressed ScheduleDocument}
    (h : BuiltSchedule sha inv casePublicId budget schedule) :
    schedule.publicId = sha (.schedule schedule.document) := by
  obtain ⟨caseId, progress, plan, s, t, u, -, -, -, -, -, hschedule⟩ := h
  obtain ⟨_, -, hschedule⟩ := bind_eq_ok.mp hschedule
  obtain ⟨_, -, hschedule⟩ := bind_eq_ok.mp hschedule
  cases hschedule
  rfl

/-- A session queues rows under the fingerprint of what its entry asks. -/
theorem all_program (sid : Nat) {entry : Entry} (h : entry.Enqueues) :
    (program sha sid entry).All inv fun w => ∀ row : SyncRow, w = Write.insertSync row →
      ∃ document, Asks sha inv entry document ∧
        row.requestFingerprint = sha (.request document) := by
  have reply : ∀ {α : Type} {p : Request α} {f : α → Reply} {W : Write → Prop},
      p.run.All inv W → (p.reply f).All inv W := by
    intro α p f W hp
    refine Session.Prog.all_bind hp fun result => ?_
    cases result <;> trivial
  have queues : ∀ {document}, Asks sha inv entry document → Queues (fun w => ∀ row : SyncRow,
      w = .insertSync row → ∃ document, Asks sha inv entry document ∧
        row.requestFingerprint = sha (.request document)) (sha (.request document)) := by
    rintro document asks row - hrow _ ⟨⟩
    exact ⟨document, asks, hrow⟩
  cases entry with
  | enqueueSync owner casePublicId request key =>
      exact reply (all_enqueueSync sha owner casePublicId request key
        fun document hdocument => queues (.sync hdocument))
  | enqueueCheckpointResume owner casePublicId checkpoint key =>
      exact reply (all_enqueueCheckpointResume sha owner casePublicId checkpoint .direct key
        (queues .direct))
  | enqueuePlanResume owner casePublicId continuationPlan checkpoint budget key =>
      exact reply (all_enqueuePlanResume sha owner casePublicId checkpoint
        (.plan continuationPlan budget) key (queues .plan))
  | enqueueBackfillSchedule owner casePublicId schedule budget key =>
      exact reply (all_enqueueBackfillSchedule sha owner casePublicId schedule budget key
        fun document checkpoint authority hauthorizes => queues (.schedule hauthorizes))
  | _ => exact h.elim

theorem queued_asks (run : Recorded P Store.empty history world) {entry : Entry} {row : SyncRow}
    (h : QueuedBy history entry row) : ∃ document,
      (∃ sid, Event.launched sid entry ∈ history) ∧
      Asks sha (Visited Store.empty history) entry document ∧
      row.requestFingerprint = sha (.request document) := by
  obtain ⟨sid, inserted, s, launched, committed, hfixed⟩ := h.committed
  obtain ⟨document, asks, hfingerprint⟩ := (run.commits_of_all (fun _ ht => ht) launched
    (all_program sid h.enqueues)).2 _ s committed inserted rfl
  have same : row.fixed.requestFingerprint = inserted.fixed.requestFingerprint := by rw [hfixed]
  exact ⟨document, ⟨sid, launched⟩, asks, same.trans hfingerprint⟩

theorem Asks.canonical {entry : Entry} {document : RequestDocument}
    (h : Asks sha inv entry document) : (Json.obj document.members).Canonical := by
  cases h with
  | sync h => exact members_canonical h
  | _ =>
      rw [RequestDocument.members]
      exact document_canonical _

theorem sync_ne_resume {request : SyncRequest} {document : RequestDocument}
    (h : syncRequestDocument request = .ok document) (checkpoint : HexDigest)
    (authority : ResumeAuthority HexDigest) :
    document ≠ .checkpointResume checkpoint authority := by
  obtain ⟨start, -, h⟩ := bind_eq_ok.mp h
  obtain ⟨stop, -, h⟩ := bind_eq_ok.mp h
  cases h
  exact fun heq => nomatch heq

/-- A schedule authorizes one continuation, that of its document. -/
theorem Authorizes.eq_iff {schedules : Set ScheduleDocument}
    (free : Set.InjOn (fun document => sha (.schedule document)) schedules)
    {casePublicId casePublicId' : Uuid} {schedule schedule' checkpoint checkpoint' : HexDigest}
    {budget budget' : PageBudget} {document document' : ScheduleDocument}
    {authority authority' : ResumeAuthority HexDigest}
    (h : Authorizes sha inv casePublicId schedule budget document checkpoint authority)
    (h' : Authorizes sha inv casePublicId' schedule' budget' document' checkpoint' authority')
    (hmem : document ∈ schedules) (hmem' : document' ∈ schedules) :
    checkpoint = checkpoint' ∧ authority = authority' ↔
      schedule = schedule' ∧ budget = budget' := by
  obtain ⟨selection, cutoff, hselection, hcutoff, rfl, rfl⟩ := h.selected
  obtain ⟨selection', cutoff', hselection', hcutoff', rfl, rfl⟩ := h'.selected
  constructor
  · rintro ⟨-, hsame⟩
    rw [ResumeAuthority.schedule.injEq] at hsame
    exact ⟨hsame.2.2.1, hsame.2.1⟩
  · rintro ⟨rfl, rfl⟩
    cases free hmem hmem' (h.built.publicId.symm.trans h'.built.publicId)
    cases hselection.symm.trans hselection'
    cases hcutoff.symm.trans hcutoff'
    exact ⟨rfl, rfl⟩

/-- Two entries of a run ask the same document where they ask for the same
work. -/
theorem Asks.eq_iff (free : CollisionFreeRun lib sha256 history) {entry entry' : Entry}
    {document document' : RequestDocument}
    (h : Asks sha (Visited Store.empty history) entry document)
    (h' : Asks sha (Visited Store.empty history) entry' document')
    (launched : ∃ sid, Event.launched sid entry ∈ history)
    (launched' : ∃ sid, Event.launched sid entry' ∈ history) :
    document = document' ↔ entry.SameWork entry' := by
  -- requests of different kinds have different documents
  have sync : ∀ {request : SyncRequest} {document : RequestDocument} {checkpoint : HexDigest}
      {authority : ResumeAuthority HexDigest}, syncRequestDocument request = .ok document →
      (document = .checkpointResume checkpoint authority ↔ False) :=
    fun h => iff_false_intro (sync_ne_resume h _ _)
  cases h with
  | sync h =>
      cases h' with
      | sync h' => exact syncRequestDocument_eq_iff h h'
      | _ => exact sync h
  | direct =>
      cases h' with
      | sync h' => exact eq_comm.trans (sync h')
      | direct =>
          rw [RequestDocument.checkpointResume.injEq]
          exact and_iff_left rfl
      | plan => exact iff_false_intro fun heq => nomatch heq
      | schedule h' =>
          obtain ⟨selection, cutoff, -, -, rfl, rfl⟩ := h'.selected
          exact iff_false_intro fun heq => nomatch heq
  | plan =>
      cases h' with
      | sync h' => exact eq_comm.trans (sync h')
      | direct => exact iff_false_intro fun heq => nomatch heq
      | plan =>
          rw [RequestDocument.checkpointResume.injEq, ResumeAuthority.plan.injEq]
          exact and_left_comm
      | schedule h' =>
          obtain ⟨selection, cutoff, -, -, rfl, rfl⟩ := h'.selected
          exact iff_false_intro fun heq => nomatch heq
  | schedule h =>
      cases h' with
      | sync h' => exact eq_comm.trans (sync h')
      | direct =>
          obtain ⟨selection, cutoff, -, -, rfl, rfl⟩ := h.selected
          exact iff_false_intro fun heq => nomatch heq
      | plan =>
          obtain ⟨selection, cutoff, -, -, rfl, rfl⟩ := h.selected
          exact iff_false_intro fun heq => nomatch heq
      | schedule h' =>
          obtain ⟨sid, launched⟩ := launched
          obtain ⟨sid', launched'⟩ := launched'
          rw [RequestDocument.checkpointResume.injEq]
          exact h.eq_iff free.schedules h' ⟨sid, _, _, _, _, _, launched, h.built⟩
            ⟨sid', _, _, _, _, _, launched', h'.built⟩

end Runs

/-- Fingerprints are equal where requests ask for the same work: those of the
two functions, in every shape they write, and those that the sessions of a
run leave in the rows they queue. -/
theorem request_fingerprints_separate (lib : CursorLibrary) (sha256 : List Octet → HexDigest) :
    (∀ (r r' : FingerprintedRequest) (d d' : CursorDocument), r.Coherent → r'.Coherent →
      r.document = .ok d → r'.document = .ok d' →
      Set.InjOn sha256 {octets | canonicalOctets lib d = some octets ∨
        canonicalOctets lib d' = some octets} →
      (documentFingerprint lib sha256 d = documentFingerprint lib sha256 d' ↔ r.SameWork r')) ∧
    ∀ (sha : Sha256) (history : List (Event (caseSystem sha))) (world : World (caseSystem sha)),
      (∀ document : RequestDocument,
        documentFingerprint lib sha256 document.members = some (sha (.request document))) →
      Recorded (fun _ _ _ => True) Store.empty history world →
      CollisionFreeRun lib sha256 history →
      ∀ (entry entry' : Entry) (row row' : SyncRow), QueuedBy history entry row →
        QueuedBy history entry' row' →
        (row.requestFingerprint = row'.requestFingerprint ↔ entry.SameWork entry') := by
  constructor
  · intro r r' d d' hr hr' h h' free
    rw [documentFingerprint_eq_iff (FingerprintedRequest.document_canonical h)
      (FingerprintedRequest.document_canonical h') free (fun _ => .inl) fun _ => .inr]
    exact FingerprintedRequest.document_eq_iff hr hr' h h'
  · intro sha history world hashes run free entry entry' row row' hrow hrow'
    obtain ⟨document, ⟨sid, launched⟩, asks, hfingerprint⟩ := queued_asks run hrow
    obtain ⟨document', ⟨sid', launched'⟩, asks', hfingerprint'⟩ := queued_asks run hrow'
    rw [hfingerprint, hfingerprint', ← Option.some_inj, ← hashes, ← hashes,
      documentFingerprint_eq_iff asks.canonical asks'.canonical free.requests
        (fun _ h => ⟨sid, _, _, launched, asks, h⟩) (fun _ h => ⟨sid', _, _, launched', asks', h⟩),
      RequestDocument.members_inj]
    exact asks.eq_iff free asks' ⟨sid, launched⟩ ⟨sid', launched'⟩

/-! ## Three requests of a case

The first two spell one request in two ways, the third asks for other
surfaces; each is cancelled before the next. -/

def requestHash (octets : List Octet) : HexDigest :=
  if octets.length % 2 = 0 then sampleDigest '0' else sampleDigest '1'

def requestSha : Sha256
  | .request document =>
      (documentFingerprint sampleCursorLibrary requestHash document.members).getD (sampleDigest '2')
  | document => sampleSha document

theorem dumpedText_obj_isSome {lib : CursorLibrary} {allowNan : Bool} {fields : CursorDocument}
    (h : ∀ field ∈ fields, (dumpedText lib allowNan field.2).isSome) :
    (dumpedText lib allowNan (.obj fields)).isSome := by
  have members : (dumpedMembers lib allowNan fields).isSome := by
    induction fields with
    | nil => rw [dumpedMembers]; rfl
    | cons field fields ih =>
        rw [List.forall_mem_cons] at h
        obtain ⟨text, htext⟩ := Option.isSome_iff_exists.mp h.1
        obtain ⟨rest, hrest⟩ := Option.isSome_iff_exists.mp (ih h.2)
        rw [dumpedMembers, htext, Option.bind_some, hrest]
        rfl
  rw [dumpedText, Option.isSome_map]
  exact members

theorem requestSha_hashes (document : RequestDocument) :
    documentFingerprint sampleCursorLibrary requestHash document.members =
      some (requestSha (.request document)) := by
  have written : (dumpedText sampleCursorLibrary true (.obj document.members)).isSome := by
    cases document with
    | checkpointResume checkpoint authority =>
        rw [RequestDocument.members, Json.dumpedText_eq (document_canonical _)]
        rfl
    | sync mode window start stop surfaces =>
        have text : ∀ s : Text, (dumpedText sampleCursorLibrary true (.str s)).isSome := fun s => by
          rw [dumpedText]
          rfl
        have bound : ∀ bound : Option Text,
            (dumpedText sampleCursorLibrary true (textOrNull bound)).isSome := by
          intro bound
          cases bound with
          | none =>
              rw [textOrNull, dumpedText]
              rfl
          | some s => exact text s
        have items : ∀ surfaces : List Surface, (dumpedTexts sampleCursorLibrary true
            (surfaces.map fun surface => .str surface.text.toList)).isSome := by
          intro surfaces
          induction surfaces with
          | nil =>
              rw [List.map_nil, dumpedTexts]
              rfl
          | cons surface surfaces ih =>
              rw [List.map_cons, dumpedTexts, dumpedText, Option.bind_some, Option.isSome_map]
              exact ih
        refine dumpedText_obj_isSome ?_
        rw [RequestDocument.members, syncFingerprintDocument]
        simp only [List.forall_mem_cons]
        refine ⟨text _, bound _, bound _, text _, ?_, text _, fun _ h => absurd h List.not_mem_nil⟩
        rw [dumpedText, Option.isSome_map]
        exact items surfaces
  obtain ⟨text, htext⟩ := Option.isSome_iff_exists.mp written
  have hfingerprint : documentFingerprint sampleCursorLibrary requestHash document.members =
      some (requestHash (asciiOctets text)) := by
    rw [documentFingerprint, canonicalOctets, htext]
    rfl
  rw [hfingerprint, requestSha, hfingerprint, Option.getD_some]

def requestEntry (start stop : Text) (surfaces : List Surface)
    (hwindow : start ≠ [] ∧ stop ≠ [] := by decide)
    (hsurfaces : surfaces ≠ [] ∧ surfaces.Nodup := by decide) (key : Text) : Entry :=
  .enqueueSync sampleOwner (sampleUuid '0')
    ⟨.bounded, .custom, some start, some stop, surfaces, hsurfaces,
      ⟨⟨start, rfl, hwindow.1⟩, stop, rfl, hwindow.2⟩⟩ key

def firstEntry : Entry :=
  requestEntry "0001-01-01T00:00:10Z".toList "0001-01-01T00:20:00Z".toList
    [.transfers, .transactions] (by decide) (by decide) "first".toList

theorem secondSurfaces_valid : [Surface.transactions, .transfers] ≠ [] ∧
    [Surface.transactions, .transfers].Nodup := by decide

def secondEntry : Entry :=
  requestEntry "0001-01-01T01:00:10.000+01:00".toList "0001-01-01T00:20:00+00:00".toList
    [.transactions, .transfers] (by decide) secondSurfaces_valid "second".toList

def thirdEntry : Entry :=
  requestEntry "0001-01-01T00:00:10Z".toList "0001-01-01T00:20:00Z".toList
    [.transfers, .jettons] (by decide) (by decide) "third".toList

def requestSession (sid : Nat) (entry : Entry) (seconds : Nat) (publicId : Uuid) :
    List (Move (caseSystem requestSha)) :=
  .launch entry :: List.replicate 30 (.run sid (sampleAnswers seconds publicId))

def requestMoves : List (Move (caseSystem requestSha)) :=
  requestSession 0 (.createOrOpenCase ⟨sampleOwner, .mainnet, .live, "0:0a".toList, none, none⟩)
      2000 (sampleUuid '0') ++
    (requestSession 1 firstEntry 2001 (sampleUuid '1') ++
    (requestSession 2 (.cancelSync sampleOwner (sampleUuid '0') (sampleUuid '1')) 2002
      (sampleUuid '9') ++
    (requestSession 3 secondEntry 2003 (sampleUuid '2') ++
    (requestSession 4 (.cancelSync sampleOwner (sampleUuid '0') (sampleUuid '2')) 2004
      (sampleUuid '9') ++
    requestSession 5 thirdEntry 2005 (sampleUuid '3')))))

def requestHistory : List (Event (caseSystem requestSha)) := World.history start requestMoves

/-- The syncs that a session inserted. -/
def insertedBy (sid : Nat) (history : List (Event (caseSystem requestSha))) : List SyncRow :=
  history.filterMap fun event => match event with
    | .committed other (.insertSync row) _ => if other = sid then some row else none
    | _ => none

theorem committed_of_insertedBy {sid : Nat} {history : List (Event (caseSystem requestSha))}
    {row : SyncRow} (h : row ∈ insertedBy sid history) :
    ∃ s, Event.committed sid (Write.insertSync row) s ∈ history := by
  obtain ⟨event, hevent, hrow⟩ := List.mem_filterMap.mp h
  split at hrow
  · rw [Option.ite_none_right_eq_some, Option.some.injEq] at hrow
    obtain ⟨rfl, rfl⟩ := hrow
    exact ⟨_, hevent⟩
  · cases hrow

/-- The documents of the first two requests, and of the third. -/
def requestDocuments : RequestDocument × RequestDocument :=
  (.sync .bounded .custom (some "0001-01-01T00:00:10Z".toList) (some "0001-01-01T00:20:00Z".toList)
      [.transfers, .transactions],
    .sync .bounded .custom (some "0001-01-01T00:00:10Z".toList) (some "0001-01-01T00:20:00Z".toList)
      [.transfers, .jettons])

theorem requestMoves_entries {sid : Nat} {entry : Entry}
    (h : Event.launched sid entry ∈ requestHistory) :
    entry ∈ [.createOrOpenCase ⟨sampleOwner, .mainnet, .live, "0:0a".toList, none, none⟩,
      firstEntry, .cancelSync sampleOwner (sampleUuid '0') (sampleUuid '1'), secondEntry,
      .cancelSync sampleOwner (sampleUuid '0') (sampleUuid '2'), thirdEntry] :=
  World.mem_entries h

theorem requestMoves_asks {sid : Nat} {entry : Entry} {inv : Store → Prop}
    {document : RequestDocument} (h : Event.launched sid entry ∈ requestHistory)
    (asks : Asks requestSha inv entry document) :
    document = requestDocuments.1 ∨ document = requestDocuments.2 := by
  have hentry := requestMoves_entries h
  simp only [List.mem_cons, List.not_mem_nil, or_false] at hentry
  rcases hentry with rfl | rfl | rfl | rfl | rfl | rfl
  · cases asks
  · cases asks with
    | sync hdocument => exact .inl (Except.ok.inj (hdocument.symm.trans (by decide +kernel)))
  · cases asks
  · cases asks with
    | sync hdocument => exact .inl (Except.ok.inj (hdocument.symm.trans (by decide +kernel)))
  · cases asks
  · cases asks with
    | sync hdocument => exact .inr (Except.ok.inj (hdocument.symm.trans (by decide +kernel)))

/-- The length of what is hashed. -/
theorem requestHash_of_canonical {document : CursorDocument} {octets : List Octet}
    (canonical : (Json.obj document).Canonical)
    (h : canonicalOctets sampleCursorLibrary document = some octets) :
    octets.length = (Json.obj document).text.length := by
  rw [canonicalOctets, Json.dumpedText_eq canonical, Option.map_some, Option.some.injEq] at h
  rw [← h, asciiOctets, List.length_map]

theorem requestMoves_collisionFree :
    CollisionFreeRun sampleCursorLibrary requestHash requestHistory where
  requests := by
    have parity : (Json.obj requestDocuments.1.members).text.length % 2 = 0 ∧
        (Json.obj requestDocuments.2.members).text.length % 2 = 1 := by decide +kernel
    have apart : sampleDigest '0' ≠ sampleDigest '1' := by decide
    rintro octets ⟨sid, entry, document, launched, asks, h⟩ octets'
      ⟨sid', entry', document', launched', asks', h'⟩ heq
    have hlength := requestHash_of_canonical asks.canonical h
    have hlength' := requestHash_of_canonical asks'.canonical h'
    simp only [requestHash] at heq
    rcases requestMoves_asks launched asks with rfl | rfl <;>
      rcases requestMoves_asks launched' asks' with rfl | rfl
    · exact Option.some.inj (h.symm.trans h')
    · rw [hlength, hlength', if_pos parity.1, if_neg (by omega)] at heq
      exact absurd heq apart
    · rw [hlength, hlength', if_neg (by omega), if_pos parity.1] at heq
      exact absurd heq.symm apart
    · exact Option.some.inj (h.symm.trans h')
  schedules := by
    rintro document ⟨sid, owner, casePublicId, schedule, budget, key, launched, -⟩
    have hentry := requestMoves_entries launched
    simp only [List.mem_cons, List.not_mem_nil, or_false, firstEntry, secondEntry, thirdEntry,
      requestEntry, reduceCtorEq] at hentry

/-- A session of the sample that enters after so many moves and inserts a
row. -/
theorem queuedBy_sample (n sid : Nat) {entry : Entry} {rest : List (Move (caseSystem requestSha))}
    (enqueues : entry.Enqueues) (h : requestMoves.drop n = .launch entry :: rest)
    (hsid : ((requestMoves.take n).foldl World.step start).sessions.length = sid)
    (inserted : (insertedBy sid requestHistory).isEmpty = false) :
    ∃ row, QueuedBy requestHistory entry row := by
  obtain ⟨row, rows, hrows⟩ := List.exists_cons_of_ne_nil
    (List.isEmpty_eq_false_iff.mp inserted)
  obtain ⟨s, hs⟩ := committed_of_insertedBy (hrows ▸ List.mem_cons_self : row ∈ _)
  have launched := World.mem_history_launch start (requestMoves.take n) rest entry
  rw [← h, List.take_append_drop, hsid] at launched
  exact ⟨row, enqueues, sid, row, s, launched, hs, rfl⟩

/-- The spelling of a request is not in its fingerprint, its surfaces are. -/
theorem request_fingerprints_separate_sample : ∃ first second third : SyncRow,
    QueuedBy requestHistory firstEntry first ∧ QueuedBy requestHistory secondEntry second ∧
      QueuedBy requestHistory thirdEntry third ∧
      first.requestFingerprint = second.requestFingerprint ∧
      first.requestFingerprint ≠ third.requestFingerprint := by
  obtain ⟨first, hfirst⟩ := @queuedBy_sample 31 1 firstEntry _ trivial rfl (by decide +kernel)
    (by decide +kernel)
  obtain ⟨second, hsecond⟩ := @queuedBy_sample 93 3 secondEntry _ trivial rfl (by decide +kernel)
    (by decide +kernel)
  obtain ⟨third, hthird⟩ := @queuedBy_sample 155 5 thirdEntry _ trivial rfl (by decide +kernel)
    (by decide +kernel)
  have separate := (request_fingerprints_separate sampleCursorLibrary requestHash).2 requestSha
    requestHistory (requestMoves.foldl World.step start) requestSha_hashes
    (Session.recorded_foldl (fun _ _ _ => true) (fun _ _ _ _ => trivial) requestMoves
      (.start : Recorded _ Store.empty [] start) (by decide +kernel)) requestMoves_collisionFree
  refine ⟨first, second, third, hfirst, hsecond, hthird,
    (separate _ _ _ _ hfirst hsecond).mpr ⟨rfl, rfl, ?_, ?_, ?_⟩, fun heq => ?_⟩
  · decide +kernel
  · decide +kernel
  · intro surface
    cases surface <;> decide
  · have same := ((separate _ _ _ _ hfirst hthird).mp heq).surfaces .jettons
    revert same
    decide

end TonTracker
