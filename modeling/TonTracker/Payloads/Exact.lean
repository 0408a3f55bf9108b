/-
# `Payloads.Exact` — the payloads of a trace, exactly

Every body of a verified trace is decoded or recognized as nothing, and the
recognized ones are observed in the order of their messages
(`getPayloadObservations_eq_ok`); multi-asset readiness reads the same
observations (`getJettonPayloadObservations_eq`).
-/
import TonTracker.Payloads.Layouts
import TonTracker.Trace.ReadinessAvailable

namespace TonTracker

open ExceptFold (bind_eq_ok check_eq_ok)
open Tlb (MsgAddress Uint)

/-! ## A trace -/

section Trace

variable {plib : PayloadLibrary} {store : TraceStore} {runId : Nat} {transactionHash : String}
  {network : Option Network} {pairs : List (LocatedMessage × plib.Cell)}

/-- What the decoder finds in a body. -/
def PayloadLibrary.found (plib : PayloadLibrary) (body : plib.Cell) : Option JettonDocument :=
  (decodeJettonPayload plib.toCellLibrary (plib.contents body)).toOption.join

/-- What the loop has observed: every body was decoded, and the recognized
ones are there, in order. -/
structure Observed (plib : PayloadLibrary) (pairs : List (LocatedMessage × plib.Cell))
    (observations : List JettonObservation) : Prop where
  decoded : ∀ pair ∈ pairs, ∃ found,
    decodeJettonPayload plib.toCellLibrary (plib.contents pair.2) = .ok found
  ordered : (observations.map fun row => (row.source, row.decoded)) =
    pairs.filterMap fun pair => (plib.found pair.2).map (pair.1, ·)
  ordinals : observations.map (·.ordinal) = List.range observations.length

theorem observed_step {done : List (LocatedMessage × plib.Cell)} {pair : LocatedMessage × plib.Cell}
    {before after : List JettonObservation}
    (h : observePayload plib network before pair = .ok after)
    (hbefore : Observed plib done before) :
    Observed plib (done ++ [pair]) after := by
  obtain ⟨hdecoded, hordered, hordinals⟩ := hbefore
  obtain ⟨source, body⟩ := pair
  cases hbody : decodeJettonPayload plib.toCellLibrary (plib.contents body) with
  | error message =>
      simp only [observePayload, hbody] at h
      cases h
  | ok found =>
      have hdecoded' : ∀ pair ∈ done ++ [(source, body)], ∃ found,
          decodeJettonPayload plib.toCellLibrary (plib.contents pair.2) = .ok found := by
        intro pair hpair
        obtain hpair | hpair := List.mem_append.mp hpair
        · exact hdecoded pair hpair
        · cases List.mem_singleton.mp hpair
          exact ⟨found, hbody⟩
      have hfound : plib.found body = found := by
        unfold PayloadLibrary.found
        rw [hbody]
        rfl
      cases found with
      | none =>
          simp only [observePayload, hbody] at h
          cases h
          refine ⟨hdecoded', ?_, hordinals⟩
          rw [List.filterMap_append, ← hordered]
          simp [hfound]
      | some document =>
          simp only [observePayload, hbody] at h
          cases h
          refine ⟨hdecoded', ?_, ?_⟩
          · rw [List.filterMap_append, ← hordered]
            simp [hfound]
          · rw [List.map_append, hordinals, List.length_append, List.length_singleton,
              List.range_succ]
            rfl

theorem observed_of_fold {observations : List JettonObservation}
    (h : pairs.foldlM (observePayload plib network) [] = .ok observations) :
    Observed plib pairs observations := by
  have hempty : Observed plib [] [] :=
    ⟨fun _ hpair => (List.not_mem_nil hpair).elim, rfl, rfl⟩
  have hstep : ∀ done pair before after, observePayload plib network before pair = .ok after →
      Observed plib done before → Observed plib (done ++ [pair]) after :=
    fun _ _ _ _ => observed_step
  exact ExceptFold.foldlM_inv (Observed plib) hstep h hempty

/-- The bodies are those of the source messages. -/
def BodiesOf (plib : PayloadLibrary) (messages : List LocatedMessage) (bodies : List plib.Cell) :
    Prop :=
  List.Forall₂ (fun source body => plib.cellHash body = source.message.bodyHash ∧
    plib.bitLength body = source.message.bodyBitLength ∧
    plib.refCount body = source.message.bodyRefCount) messages bodies

theorem verifiedBody_eq_ok {verification : BocVerification} {source : LocatedMessage}
    {body : plib.Cell}
    (h : verifiedBody plib.toReadinessLibrary verification source = .ok body) :
    plib.cellHash body = source.message.bodyHash ∧
      plib.bitLength body = source.message.bodyBitLength ∧
      plib.refCount body = source.message.bodyRefCount := by
  unfold verifiedBody at h
  obtain ⟨row, -, h⟩ := bind_eq_ok.mp h
  obtain ⟨parsed, -, h⟩ := bind_eq_ok.mp h
  split at h
  all_goals
    dsimp only at h
    split at h
    · obtain ⟨_, hcheck, h⟩ := bind_eq_ok.mp h
      cases h
      obtain ⟨-, hhash, hbits, hrefs, -⟩ := check_eq_ok.mp hcheck
      exact ⟨hhash, hbits, hrefs⟩
    · cases h

/-- The observations of a trace: recognized and unrecognized messages make up
the source messages, and the recognized ones are observed in their order. -/
structure TraceObserved (plib : PayloadLibrary) (evidence : BocMessageEvidence)
    (response : JettonObservations) : Prop where
  source : response.sourceMessageCount = evidence.messages.length
  complete : response.recognizedMessageCount + response.unrecognizedMessageCount =
    response.sourceMessageCount
  bodies : ∃ bodies, BodiesOf plib evidence.messages bodies ∧
    Observed plib (evidence.messages.zip bodies) response.observations ∧
    response.recognizedMessageCount = response.observations.length ∧
    response.unrecognizedMessageCount =
      (bodies.filter fun body => (plib.found body).isNone).length

theorem length_filterMap_zip {messages : List LocatedMessage} {bodies : List plib.Cell}
    (h : BodiesOf plib messages bodies) :
    ((messages.zip bodies).filterMap fun pair => (plib.found pair.2).map (pair.1, ·)).length +
      (bodies.filter fun body => (plib.found body).isNone).length = messages.length := by
  induction h with
  | nil => rfl
  | @cons source body messages bodies _ _ ih =>
      rw [List.zip_cons_cons, List.filterMap_cons, List.filter_cons, List.length_cons, ← ih]
      cases plib.found body with
      | none => simp; omega
      | some document => simp; omega

theorem getPayloadObservations_eq_ok {response : JettonObservations}
    (h : getPayloadObservations plib store runId transactionHash = .ok (some response)) :
    ∃ evidence, getWalletTransactionBocMessageEvidence plib.toBocLibrary store runId
      transactionHash = .ok (some evidence) ∧ TraceObserved plib evidence response := by
  obtain ⟨found, hfound, h⟩ := bind_eq_ok.mp h
  cases found with
  | none => cases h
  | some evidence =>
      refine ⟨evidence, hfound, ?_⟩
      obtain ⟨verification, -, h⟩ := bind_eq_ok.mp h
      obtain ⟨bodies, hbodies, h⟩ := bind_eq_ok.mp h
      obtain ⟨_, hresponse, h⟩ := bind_eq_ok.mp h
      cases h
      obtain ⟨_, -, hbodies⟩ := bind_eq_ok.mp hbodies
      have hof : BodiesOf plib evidence.messages bodies :=
        (ExceptFold.mapM_eq_ok.mp hbodies).imp fun _ _ => verifiedBody_eq_ok
      obtain ⟨_, -, h⟩ := bind_eq_ok.mp hresponse
      obtain ⟨observations, hobservations, h⟩ := bind_eq_ok.mp h
      cases h
      have hobserved := observed_of_fold hobservations
      have hlength := length_filterMap_zip hof
      rw [← hobserved.ordered, List.length_map] at hlength
      exact ⟨rfl, by simp only; omega, bodies, hof, hobserved, rfl, by simp only; omega⟩

/-! ## What readiness reads -/

/-- An observation, as multi-asset readiness reads it. -/
def JettonObservation.read (row : JettonObservation) : PayloadObservation where
  identity := row.payloadObservationIdentity
  source := row.source
  decoded := row.decoded.toDecodedPayload

def JettonObservations.read (response : JettonObservations) : JettonPayloads where
  captureId := response.captureId
  verificationId := response.verificationId
  sourceMessageCount := response.sourceMessageCount
  unrecognizedMessageCount := response.unrecognizedMessageCount
  observations := response.observations.map (·.read)

theorem foldlM_observePayload (pairs : List (LocatedMessage × plib.Cell))
    (done : List JettonObservation) :
    (pairs.foldlM (observePayload plib network) done).map (·.map (·.read)) =
      (pairs.mapM fun pair => payloadObservation plib.toReadinessLibrary network pair.1 pair.2).map
        fun found => done.map (·.read) ++ found.filterMap id := by
  induction pairs generalizing done with
  | nil => simp [Except.map, pure, Except.pure]
  | cons pair pairs ih =>
      rw [List.foldlM_cons, List.mapM_cons]
      generalize (pairs.mapM fun pair =>
        payloadObservation plib.toReadinessLibrary network pair.1 pair.2) = rest at ih ⊢
      simp only [observePayload, payloadObservation, plib.decodes]
      cases decodeJettonPayload plib.toCellLibrary (plib.contents pair.2) with
      | error message => rfl
      | ok found =>
          cases found with
          | none =>
              refine (ih done).trans ?_
              cases rest <;> rfl
          | some document =>
              refine (ih _).trans ?_
              rw [List.map_append]
              cases rest with
              | error raised => rfl
              | ok found => exact congrArg Except.ok (List.append_assoc _ _ _)

theorem buildPayloadResponse_read (evidence : BocMessageEvidence) {bodies : List plib.Cell}
    (h : bodies.length = evidence.messages.length) :
    (buildPayloadResponse plib evidence bodies).map (·.read) = (do
      let found ← (evidence.messages.zip bodies).mapM fun pair =>
        payloadObservation plib.toReadinessLibrary evidence.network pair.1 pair.2
      let observations := found.filterMap id
      return {
        captureId := evidence.captureId
        verificationId := evidence.verificationId
        sourceMessageCount := evidence.messages.length
        unrecognizedMessageCount := evidence.messages.length - observations.length
        observations := observations }) := by
  have hfold := @foldlM_observePayload plib evidence.network (evidence.messages.zip bodies) []
  unfold buildPayloadResponse
  rw [(check_eq_ok (u := ())).mpr h, ExceptFold.ok_bind]
  cases hobserved : (evidence.messages.zip bodies).foldlM
      (observePayload plib evidence.network) [] with
  | error raised =>
      rw [hobserved] at hfold
      cases hfound : (evidence.messages.zip bodies).mapM fun pair =>
          payloadObservation plib.toReadinessLibrary evidence.network pair.1 pair.2 with
      | error raised' =>
          rw [hfound] at hfold
          cases hfold
          rfl
      | ok found => rw [hfound] at hfold; cases hfold
  | ok observations =>
      rw [hobserved] at hfold
      cases hfound : (evidence.messages.zip bodies).mapM fun pair =>
          payloadObservation plib.toReadinessLibrary evidence.network pair.1 pair.2 with
      | error raised => rw [hfound] at hfold; cases hfold
      | ok found =>
          rw [hfound] at hfold
          have hread : observations.map (·.read) = found.filterMap id := Except.ok.inj hfold
          simp only [ExceptFold.ok_bind]
          show Except.ok _ = Except.ok _
          rw [← hread, List.length_map]
          rfl

/-- Multi-asset readiness reads the observations of this service. -/
theorem getJettonPayloadObservations_eq (plib : PayloadLibrary) (store : TraceStore) (runId : Nat)
    (transactionHash : String) :
    getJettonPayloadObservations plib.toReadinessLibrary store runId transactionHash =
      (getPayloadObservations plib store runId transactionHash).map (·.map (·.read)) := by
  unfold getJettonPayloadObservations getPayloadObservations
  cases getWalletTransactionBocMessageEvidence plib.toBocLibrary store runId transactionHash with
  | error raised => rfl
  | ok found =>
      cases found with
      | none => rfl
      | some evidence =>
          simp only [ExceptFold.ok_bind]
          unfold jettonPayloads loadVerifiedBodies
          cases ExceptFold.present (store.verifications.find? (·.id = evidence.verificationId))
              (TraceRaised.payloadConflict
                "Locally verified BOC storage disappeared during payload decoding.") with
          | error raised => rfl
          | ok verification =>
              simp only [ExceptFold.ok_bind]
              cases verification.transactions.mapM (reparsed plib.toReadinessLibrary) with
              | error raised => rfl
              | ok _ =>
                  simp only [ExceptFold.ok_bind]
                  cases hbodies : evidence.messages.mapM
                      (verifiedBody plib.toReadinessLibrary verification) with
                  | error raised => rfl
                  | ok bodies =>
                      have hlength := (ExceptFold.mapM_eq_ok.mp hbodies).length_eq.symm
                      simp only [ExceptFold.ok_bind]
                      rw [← buildPayloadResponse_read evidence hlength]
                      cases buildPayloadResponse plib evidence bodies <;> rfl

end Trace

/-! ## Exactness -/

/-- Decoding a TEP-74 body is exact, and so are the observations of a trace. -/
structure PayloadsExact (plib : PayloadLibrary) : Prop where
  unrecognized : ∀ body : Tlb.Cell, decodeJettonPayload plib.toCellLibrary body = .ok none ↔
    body.bits.length < 32 ∨
      ∀ operation : JettonOperation, body.bits.take 32 ≠ Tlb.uintBits 32 operation.opcode
  decoded : ∀ (body : Tlb.Cell) (document : JettonDocument),
    decodeJettonPayload plib.toCellLibrary body = .ok (some document) ↔
      ∃ payload : JettonPayload, body = payload.body ∧
        payload.fields.Addressed plib.toCellLibrary ∧
        payload.document plib.toCellLibrary = document
  undone : ∀ payload : JettonPayload, payload.fields.Addressed plib.toCellLibrary →
    decodeJettonPayload plib.toCellLibrary payload.body =
      .ok (some (payload.document plib.toCellLibrary))
  distinct : ∀ (body body' : Tlb.Cell) (document : JettonDocument),
    MinimallyEncoded body → MinimallyEncoded body' →
    decodeJettonPayload plib.toCellLibrary body = .ok (some document) →
    decodeJettonPayload plib.toCellLibrary body' = .ok (some document) → body = body'
  traces : ∀ (store : TraceStore) (runId : Nat) (transactionHash : String)
    (response : JettonObservations),
    getPayloadObservations plib store runId transactionHash = .ok (some response) →
    ∃ evidence, getWalletTransactionBocMessageEvidence plib.toBocLibrary store runId
      transactionHash = .ok (some evidence) ∧ TraceObserved plib evidence response

theorem minimallyEncoded_payload {lib : CellLibrary} {body : Tlb.Cell} {document : JettonDocument}
    (hbody : MinimallyEncoded body) (h : decodeJettonPayload lib body = .ok (some document)) :
    ∃ payload : JettonPayload, body = payload.body ∧ payload.fields.Minimal ∧
      payload.fields.Addressed lib ∧ payload.document lib = document := by
  obtain ⟨payload, rfl, hminimal⟩ := hbody
  obtain ⟨read, hread, haddressed, hdocument⟩ := decodeJettonPayload_eq_some.mp h
  cases body_injective hread
  exact ⟨payload, rfl, hminimal, haddressed, hdocument⟩

theorem jetton_payloads_exact (plib : PayloadLibrary) (hhash : Function.Injective plib.hash)
    (htext : plib.toCellLibrary.Injective) : PayloadsExact plib where
  unrecognized body := by
    rw [decodeJettonPayload_eq_none]
    constructor
    · exact fun h => .inr h
    · rintro (hshort | h) operation hrecognized
      · have hbits := congrArg List.length (hrecognized : body.bits.take 32 = _)
        rw [List.length_take, Tlb.length_uintBits] at hbits
        omega
      · exact h operation hrecognized
  decoded _ _ := decodeJettonPayload_eq_some
  undone payload haddressed := decodeJettonPayload_eq_some.mpr ⟨payload, rfl, haddressed, rfl⟩
  distinct body body' document hbody hbody' h h' := by
    obtain ⟨payload, rfl, hminimal, haddressed, hdocument⟩ := minimallyEncoded_payload hbody h
    obtain ⟨payload', rfl, hminimal', haddressed', hdocument'⟩ :=
      minimallyEncoded_payload hbody' h'
    rw [document_injective hhash htext hminimal hminimal' haddressed haddressed'
      (hdocument.trans hdocument'.symm)]
  traces _ _ _ _ h := getPayloadObservations_eq_ok h

/-! ## A library -/

/-- The first character of a cell's text: its type. -/
def kindChar : Tlb.Cell → Char
  | .ordinary _ _ => 'o'
  | .exotic .prunedBranch _ _ => 'p'
  | .exotic .library _ _ => 'l'
  | .exotic .merkleProof _ _ => 'm'
  | .exotic .merkleUpdate _ _ => 'u'

def bitsText : List Bool → Text
  | [] => ['/']
  | bit :: bits => (if bit then '1' else '0') :: bitsText bits

mutual

/-- A cell written out, in place of its hash. -/
def cellText : Tlb.Cell → Text
  | .ordinary bits refs => kindChar (.ordinary bits refs) :: (bitsText bits ++ refsText refs)
  | .exotic kind data refs => kindChar (.exotic kind data refs) :: (bitsText data ++ refsText refs)

def refsText : List Tlb.Cell → Text
  | [] => ['.']
  | cell :: cells => ',' :: (cellText cell ++ refsText cells)

end

theorem bitsText_unique {bits bits' : List Bool} {rest rest' : Text}
    (h : bitsText bits ++ rest = bitsText bits' ++ rest') : bits = bits' ∧ rest = rest' := by
  induction bits generalizing bits' with
  | nil =>
      cases bits' with
      | nil => exact ⟨rfl, (List.cons.inj h).2⟩
      | cons bit bits' =>
          have hhead := (List.cons.inj h).1
          cases bit <;> simp at hhead
  | cons bit bits ih =>
      cases bits' with
      | nil =>
          have hhead := (List.cons.inj h).1
          cases bit <;> simp at hhead
      | cons bit' bits' =>
          obtain ⟨hhead, htail⟩ := List.cons.inj h
          obtain ⟨rfl, hrest⟩ := ih htail
          have hbit : bit = bit' := by cases bit <;> cases bit' <;> simp_all
          exact ⟨by rw [hbit], hrest⟩

mutual

theorem cellText_unique : ∀ {a b : Tlb.Cell} {rest rest' : Text},
    cellText a ++ rest = cellText b ++ rest' → a = b ∧ rest = rest'
  | .ordinary bits refs, .ordinary bits' refs', rest, rest', h => by
      have htail : bitsText bits ++ refsText refs ++ rest =
          bitsText bits' ++ refsText refs' ++ rest' := (List.cons.inj h).2
      rw [List.append_assoc, List.append_assoc] at htail
      obtain ⟨rfl, hrefs⟩ := bitsText_unique htail
      obtain ⟨rfl, hrest⟩ := refsText_unique hrefs
      exact ⟨rfl, hrest⟩
  | .exotic kind data refs, .exotic kind' data' refs', rest, rest', h => by
      have hkind := (List.cons.inj h).1
      have htail : bitsText data ++ refsText refs ++ rest =
          bitsText data' ++ refsText refs' ++ rest' := (List.cons.inj h).2
      rw [List.append_assoc, List.append_assoc] at htail
      obtain ⟨rfl, hrefs⟩ := bitsText_unique htail
      obtain ⟨rfl, hrest⟩ := refsText_unique hrefs
      have heq : kind = kind' := by
        revert hkind
        cases kind <;> cases kind' <;> simp [kindChar]
      exact ⟨by rw [heq], hrest⟩
  | .ordinary bits refs, .exotic kind data refs', rest, rest', h => by
      have hkind := (List.cons.inj h).1
      cases kind <;> simp [kindChar] at hkind
  | .exotic kind data refs, .ordinary bits refs', rest, rest', h => by
      have hkind := (List.cons.inj h).1
      cases kind <;> simp [kindChar] at hkind

theorem refsText_unique : ∀ {as bs : List Tlb.Cell} {rest rest' : Text},
    refsText as ++ rest = refsText bs ++ rest' → as = bs ∧ rest = rest'
  | [], [], _, _, h => ⟨rfl, (List.cons.inj h).2⟩
  | [], _ :: _, _, _, h => by
      have hhead := (List.cons.inj h).1
      simp at hhead
  | _ :: _, [], _, _, h => by
      have hhead := (List.cons.inj h).1
      simp at hhead
  | a :: as, b :: bs, rest, rest', h => by
      have htail : cellText a ++ refsText as ++ rest = cellText b ++ refsText bs ++ rest' :=
        (List.cons.inj h).2
      rw [List.append_assoc, List.append_assoc] at htail
      obtain ⟨rfl, hcells⟩ := cellText_unique htail
      obtain ⟨rfl, hrest⟩ := refsText_unique hcells
      exact ⟨rfl, hrest⟩

end

/-- An octet, read as a workchain. -/
def octetWorkchain (value : Uint 8) : Int := if value.val < 128 then value.val else value.val - 256

/-- Cells are written out, and a standard address without anycast has a raw
text. -/
def sampleCells : CellLibrary where
  hash cell := String.ofList (cellText cell)
  rawText
    | .addrStd none workchain address =>
        some (some ⟨octetWorkchain workchain, (ByteMessages.littleBytes 32 address.val).reverse⟩)
    | _ => none

theorem sampleCells_hash : Function.Injective sampleCells.hash := by
  intro a b h
  have htext : cellText a = cellText b := String.ofList_injective h
  exact (cellText_unique (congrArg (· ++ []) htext)).1

theorem octetWorkchain_injective : Function.Injective octetWorkchain := by
  intro a b h
  have ha := a.isLt
  have hb := b.isLt
  unfold octetWorkchain at h
  refine Fin.ext ?_
  split at h <;> split at h <;> omega

theorem sampleCells_injective : sampleCells.Injective := by
  have hstd : ∀ {address : MsgAddress} {text : TonAddress},
      sampleCells.rawText address = some (some text) → ∃ workchain account,
        address = .addrStd none workchain account ∧ text = ⟨octetWorkchain workchain,
          (ByteMessages.littleBytes 32 account.val).reverse⟩ := by
    intro address text h
    match address, h with
    | .addrStd none workchain account, h =>
        cases h
        exact ⟨workchain, account, rfl, rfl⟩
  intro a b text ha hb
  obtain ⟨workchain, account, rfl, rfl⟩ := hstd ha
  obtain ⟨workchain', account', rfl, htext⟩ := hstd hb
  obtain ⟨hworkchain, haccount⟩ := TonAddress.mk.inj htext
  rw [octetWorkchain_injective hworkchain, Fin.ext (ByteMessages.littleBytes_inj account.isLt
    account'.isLt (List.reverse_injective haccount))]

def samplePayloadLibrary : PayloadLibrary where
  toReadinessLibrary := { smallReadinessLibrary with
    decodePayload := fun _ =>
      (decodeJettonPayload sampleCells (.ordinary [] [])).map (·.map (·.toDecodedPayload)) }
  toCellLibrary := sampleCells
  contents _ := .ordinary [] []
  decodes _ := rfl

theorem jetton_payloads_exact_sample : PayloadsExact samplePayloadLibrary :=
  jetton_payloads_exact samplePayloadLibrary sampleCells_hash sampleCells_injective

/-- A transfer of 1000 units without a response destination, with a comment in a reference. -/
def sampleTransfer : JettonPayload where
  queryId := 7
  fields := .transfer ⟨2, 1000⟩ (.addrStd none 0 5) .addrNone none ⟨0, 0⟩
    (.inRef (.ordinary [true, false] []))

example : ((decodeJettonPayload sampleCells sampleTransfer.body).toOption.join.map fun document =>
    (document.amountBaseUnits, document.responseDestination, document.forwardPayloadBitLength)) =
      some (some 1000, none, some 2) := by
  decide +kernel

end TonTracker
