/-
# `Payloads.Layouts` — a TEP-74 body is decoded to what it encodes

`JettonPayload` is what TEP-74 lays out: six operations, with optional
references, absent addresses and a forward payload in the rest of the body
or in a reference.  A decoder of loads returns on the encodings of what it
reads (`Tlb.Reads`), so the decoder of an operation returns on the bodies
that encode one of its payloads, completely, and on no other
(`decodeJettonPayload_eq_some`).  Documents of one payload each, where
amounts are as short as they can be (`document_injective`).
-/
import TonTracker.Services.WalletJettonPayloadObservations

namespace TonTracker

open ExceptFold (bind_eq_ok check_eq_ok present_eq_ok)
open Tlb (Coins Load MsgAddress Slice Uint result reads_coins reads_address reads_bit reads_ref
  reads_uint reads_maybe result_eq_ok)

/-! ## Layouts -/

/-- `Either Cell ^Cell`: the rest of the body, or a reference. -/
inductive ForwardPayload where
  | inline (bits : List Bool) (refs : List Tlb.Cell)
  | inRef (cell : Tlb.Cell)

namespace ForwardPayload

def encode : ForwardPayload → Slice
  | inline bits refs => Tlb.ofBits [false] ++ ⟨bits, refs⟩
  | inRef cell => Tlb.ofBits [true] ++ Tlb.ofRef cell

def isRef : ForwardPayload → Bool
  | inline _ _ => false
  | inRef _ => true

/-- The payload, as a cell. -/
def cell : ForwardPayload → Tlb.Cell
  | inline bits refs => .ordinary bits refs
  | inRef cell => cell

theorem ext_of_cell {a b : ForwardPayload} (hisRef : a.isRef = b.isRef) (hcell : a.cell = b.cell) :
    a = b := by
  cases a <;> cases b <;> simp_all [isRef, cell]

end ForwardPayload

/-- The fields behind the query id. -/
inductive JettonFields where
  | transfer (amount : Coins) (destination responseDestination : MsgAddress)
      (customPayload : Option Tlb.Cell) (forwardTonAmount : Coins) (forward : ForwardPayload)
  | transferNotification (amount : Coins) (sender : MsgAddress) (forward : ForwardPayload)
  | excesses
  | burn (amount : Coins) (responseDestination : MsgAddress) (customPayload : Option Tlb.Cell)
  | internalTransfer (amount : Coins) (fromAccount responseDestination : MsgAddress)
      (forwardTonAmount : Coins) (forward : ForwardPayload)
  | burnNotification (amount : Coins) (sender responseDestination : MsgAddress)

structure JettonPayload where
  queryId : Uint 64
  fields : JettonFields

namespace JettonFields

def operation : JettonFields → JettonOperation
  | transfer .. => .transfer
  | transferNotification .. => .transferNotification
  | excesses => .excesses
  | burn .. => .burn
  | internalTransfer .. => .internalTransfer
  | burnNotification .. => .burnNotification

open Tlb (encodeCoins encodeAddress encodeMaybe ofRef)

/-- The fields in a body, in the order of the standard. -/
def encode : JettonFields → Slice
  | transfer amount destination responseDestination customPayload forwardTonAmount forward =>
      encodeCoins amount ++ (encodeAddress destination ++ (encodeAddress responseDestination ++
        (encodeMaybe ofRef customPayload ++ (encodeCoins forwardTonAmount ++ forward.encode))))
  | transferNotification amount sender forward =>
      encodeCoins amount ++ (encodeAddress sender ++ forward.encode)
  | excesses => ⟨[], []⟩
  | burn amount responseDestination customPayload =>
      encodeCoins amount ++ (encodeAddress responseDestination ++
        (encodeMaybe ofRef customPayload ++ ⟨[], []⟩))
  | internalTransfer amount fromAccount responseDestination forwardTonAmount forward =>
      encodeCoins amount ++ (encodeAddress fromAccount ++ (encodeAddress responseDestination ++
        (encodeCoins forwardTonAmount ++ forward.encode)))
  | burnNotification amount sender responseDestination =>
      encodeCoins amount ++ (encodeAddress sender ++
        (encodeAddress responseDestination ++ ⟨[], []⟩))

/-- The amounts are as short as they can be. -/
def Minimal : JettonFields → Prop
  | transfer amount _ _ _ forwardTonAmount _ => amount.Minimal ∧ forwardTonAmount.Minimal
  | transferNotification amount _ _ => amount.Minimal
  | excesses => True
  | burn amount _ _ => amount.Minimal
  | internalTransfer amount _ _ forwardTonAmount _ => amount.Minimal ∧ forwardTonAmount.Minimal
  | burnNotification amount _ _ => amount.Minimal

end JettonFields

/-- A payload as a message body. -/
def JettonPayload.body (payload : JettonPayload) : Tlb.Cell :=
  (Tlb.encodeUint payload.fields.operation.opcode ++
    (Tlb.encodeUint payload.queryId ++ payload.fields.encode)).toCell

variable (lib : CellLibrary)

/-- The address a document shows. -/
def CellLibrary.written : MsgAddress → Option TonAddress
  | .addrNone => none
  | address => (lib.rawText address).join

/-- An address that is required is there, and has a raw text. -/
def CellLibrary.Required (address : MsgAddress) : Prop := (lib.written address).isSome

/-- An address is absent or has a raw text. -/
def CellLibrary.Allowed (address : MsgAddress) : Prop := address = .addrNone ∨ lib.Required address

/-- The addresses a layout requires are there. -/
def JettonFields.Addressed : JettonFields → Prop
  | transfer _ destination responseDestination _ _ _ =>
      lib.Required destination ∧ lib.Allowed responseDestination
  | transferNotification _ sender _ => lib.Required sender
  | excesses => True
  | burn _ responseDestination _ => lib.Allowed responseDestination
  | internalTransfer _ fromAccount responseDestination _ _ =>
      lib.Allowed fromAccount ∧ lib.Allowed responseDestination
  | burnNotification _ sender responseDestination =>
      lib.Required sender ∧ lib.Allowed responseDestination

/-- A document with the values of the fields. -/
def JettonFields.fill (document : JettonDocument) : JettonFields → JettonDocument
  | transfer amount destination responseDestination customPayload forwardTonAmount forward =>
      { document with
        amountBaseUnits := some amount.value
        destination := lib.written destination
        responseDestination := lib.written responseDestination
        customPayloadPresent := customPayload.isSome
        customPayloadHash := customPayload.map lib.hash
        forwardTonAmount := some forwardTonAmount.value
        forwardPayloadInRef := some forward.isRef
        forwardPayloadHash := some (lib.hash forward.cell)
        forwardPayloadBitLength := some forward.cell.bits.length
        forwardPayloadRefCount := some forward.cell.refs.length }
  | transferNotification amount sender forward =>
      { document with
        amountBaseUnits := some amount.value
        sender := lib.written sender
        forwardPayloadInRef := some forward.isRef
        forwardPayloadHash := some (lib.hash forward.cell)
        forwardPayloadBitLength := some forward.cell.bits.length
        forwardPayloadRefCount := some forward.cell.refs.length }
  | excesses => document
  | burn amount responseDestination customPayload =>
      { document with
        amountBaseUnits := some amount.value
        responseDestination := lib.written responseDestination
        customPayloadPresent := customPayload.isSome
        customPayloadHash := customPayload.map lib.hash }
  | internalTransfer amount fromAccount responseDestination forwardTonAmount forward =>
      { document with
        amountBaseUnits := some amount.value
        fromAccount := lib.written fromAccount
        responseDestination := lib.written responseDestination
        forwardTonAmount := some forwardTonAmount.value
        forwardPayloadInRef := some forward.isRef
        forwardPayloadHash := some (lib.hash forward.cell)
        forwardPayloadBitLength := some forward.cell.bits.length
        forwardPayloadRefCount := some forward.cell.refs.length }
  | burnNotification amount sender responseDestination =>
      { document with
        amountBaseUnits := some amount.value
        sender := lib.written sender
        responseDestination := lib.written responseDestination }

/-- The document of a payload: the values it encodes. -/
def JettonPayload.document (payload : JettonPayload) : JettonDocument :=
  payload.fields.fill lib (payload.fields.operation.document payload.queryId)

/-! ## Steps of the decoder -/

variable {lib} {α : Type} {source : Slice} {final : α}

theorem addressText_eq_ok {address : MsgAddress} {text : TonAddress} :
    addressText lib address = .ok text ↔ lib.written address = some text := by
  cases address with
  | addrNone => exact iff_of_false nofun nofun
  | _ =>
      unfold addressText CellLibrary.written
      simp only [bind_eq_ok, present_eq_ok, Option.join_eq_some_iff]
      constructor
      · rintro ⟨found, hfound, rfl⟩
        exact hfound
      · exact fun h => ⟨_, h, rfl⟩

theorem optionalAddressText_eq_ok {address : MsgAddress} {text : Option TonAddress} :
    optionalAddressText lib address = .ok text ↔
      lib.Allowed address ∧ text = lib.written address := by
  have hpresent : address ≠ .addrNone → (some <$> addressText lib address = .ok text ↔
      lib.Allowed address ∧ text = lib.written address) := by
    intro hne
    have hmap : some <$> addressText lib address =
        addressText lib address >>= fun found => .ok (some found) := by
      cases addressText lib address <;> rfl
    rw [hmap, bind_eq_ok]
    constructor
    · rintro ⟨found, hfound, heq⟩
      cases heq
      have hwritten := addressText_eq_ok.mp hfound
      exact ⟨.inr (Option.isSome_iff_exists.mpr ⟨found, hwritten⟩), hwritten.symm⟩
    · rintro ⟨hallowed, rfl⟩
      obtain h | h := hallowed
      · exact absurd h hne
      · obtain ⟨found, hfound⟩ := Option.isSome_iff_exists.mp h
        exact ⟨found, addressText_eq_ok.mpr hfound, by rw [hfound]⟩
  cases address with
  | addrNone =>
      constructor
      · intro h
        cases h
        exact ⟨.inl rfl, rfl⟩
      · rintro ⟨-, rfl⟩
        rfl
  | addrExtern _ _ => exact hpresent nofun
  | addrStd _ _ _ => exact hpresent nofun
  | addrVar _ _ _ _ => exact hpresent nofun

/-- A required address, and what follows it. -/
theorem loadAddressText_bind {next : TonAddress → Load PayloadRaised α} :
    result (loadAddressText lib >>= next) source = .ok final ↔
      ∃ address rest, source = Tlb.encodeAddress address ++ rest ∧ ∃ text,
        lib.written address = some text ∧ result (next text) rest = .ok final := by
  unfold loadAddressText
  rw [bind_assoc, (reads_address _).result_bind]
  simp only [Tlb.result_lift_bind, addressText_eq_ok]

/-- An optional address, and what follows it. -/
theorem loadOptionalAddressText_bind {next : Option TonAddress → Load PayloadRaised α} :
    result (loadOptionalAddressText lib >>= next) source = .ok final ↔
      ∃ address rest, source = Tlb.encodeAddress address ++ rest ∧ lib.Allowed address ∧
        result (next (lib.written address)) rest = .ok final := by
  unfold loadOptionalAddressText
  rw [bind_assoc, (reads_address _).result_bind]
  simp only [Tlb.result_lift_bind, optionalAddressText_eq_ok]
  constructor
  · rintro ⟨address, rest, hsource, _, ⟨hallowed, rfl⟩, hnext⟩
    exact ⟨address, rest, hsource, hallowed, hnext⟩
  · rintro ⟨address, rest, hsource, hallowed, hnext⟩
    exact ⟨address, rest, hsource, _, ⟨hallowed, rfl⟩, hnext⟩

/-- A decoder that ends here consumes all. -/
theorem requireConsumed_bind {value : α} :
    result (do requireConsumed; return value) source = .ok final ↔
      source = ⟨[], []⟩ ∧ value = final := by
  obtain ⟨bits, refs⟩ := source
  cases bits with
  | cons bit bits => exact iff_of_false nofun nofun
  | nil =>
      cases refs with
      | cons cell refs => exact iff_of_false nofun nofun
      | nil =>
          constructor
          · intro h
            cases h
            exact ⟨rfl, rfl⟩
          · rintro ⟨-, rfl⟩
            rfl

/-- A forward payload takes the rest of the body. -/
theorem forwardPayload_bind {f : Bool × Tlb.Cell → α} :
    result (do return f (← forwardPayload)) source = .ok final ↔
      ∃ forward : ForwardPayload, source = forward.encode ∧
        f (forward.isRef, forward.cell) = final := by
  rw [Tlb.result_map]
  have hforward : ∀ found, result forwardPayload source = .ok found ↔
      ∃ forward : ForwardPayload, source = forward.encode ∧
        (forward.isRef, forward.cell) = found := by
    intro found
    unfold forwardPayload
    rw [(reads_bit _).result_bind]
    constructor
    · rintro ⟨bit, rest, rfl, hnext⟩
      cases bit with
      | false =>
          cases hnext
          exact ⟨.inline rest.bits rest.refs, rfl, rfl⟩
      | true =>
          obtain ⟨cell, left, rfl, hconsumed⟩ := (reads_ref _).result_bind.mp hnext
          obtain ⟨rfl, rfl⟩ := requireConsumed_bind.mp hconsumed
          exact ⟨.inRef cell, rfl, rfl⟩
    · rintro ⟨forward, rfl, rfl⟩
      cases forward with
      | inline bits refs => exact ⟨false, ⟨bits, refs⟩, rfl, rfl⟩
      | inRef cell =>
          exact ⟨true, Tlb.ofRef cell, rfl, (reads_ref _).result_bind.mpr
            ⟨cell, ⟨[], []⟩, rfl, requireConsumed_bind.mpr ⟨rfl, rfl⟩⟩⟩
  simp only [hforward]
  constructor
  · rintro ⟨_, ⟨forward, hsource, rfl⟩, hfinal⟩
    exact ⟨forward, hsource, hfinal⟩
  · rintro ⟨forward, hsource, hfinal⟩
    exact ⟨_, ⟨forward, hsource, rfl⟩, hfinal⟩

/-! ## The fields of an operation -/

section Fields

variable {document filled : JettonDocument}

theorem decodeTransfer_eq_ok :
    result (decodeOperation lib .transfer document) source = .ok filled ↔
      ∃ amount destination responseDestination customPayload forwardTonAmount forward,
        source = JettonFields.encode (.transfer amount destination responseDestination
          customPayload forwardTonAmount forward) ∧
        lib.Required destination ∧ lib.Allowed responseDestination ∧
        JettonFields.fill lib document (.transfer amount destination responseDestination
          customPayload forwardTonAmount forward) = filled := by
  unfold decodeOperation
  simp only [(reads_coins _).result_bind, loadAddressText_bind, loadOptionalAddressText_bind,
    (reads_maybe _ (reads_ref _)).result_bind, forwardPayload_bind]
  constructor
  · rintro ⟨amount, _, rfl, destination, _, rfl, text, htext, response, _, rfl, hresponse, custom,
      _, rfl, forwardTonAmount, _, rfl, forward, rfl, rfl⟩
    refine ⟨amount, destination, response, custom, forwardTonAmount, forward, rfl, ?_, hresponse,
      ?_⟩
    · exact Option.isSome_iff_exists.mpr ⟨text, htext⟩
    · rw [← htext]
      rfl
  · rintro ⟨amount, destination, response, custom, forwardTonAmount, forward, rfl, hdestination,
      hresponse, rfl⟩
    obtain ⟨text, htext⟩ := Option.isSome_iff_exists.mp hdestination
    refine ⟨amount, _, rfl, destination, _, rfl, text, htext, response, _, rfl, hresponse, custom,
      _, rfl, forwardTonAmount, _, rfl, forward, rfl, ?_⟩
    rw [← htext]
    rfl

theorem decodeTransferNotification_eq_ok :
    result (decodeOperation lib .transferNotification document) source = .ok filled ↔
      ∃ amount sender forward,
        source = JettonFields.encode (.transferNotification amount sender forward) ∧
        lib.Required sender ∧
        JettonFields.fill lib document (.transferNotification amount sender forward) = filled := by
  unfold decodeOperation
  simp only [(reads_coins _).result_bind, loadAddressText_bind, forwardPayload_bind]
  constructor
  · rintro ⟨amount, _, rfl, sender, _, rfl, text, htext, forward, rfl, rfl⟩
    refine ⟨amount, sender, forward, rfl, Option.isSome_iff_exists.mpr ⟨text, htext⟩, ?_⟩
    rw [← htext]
    rfl
  · rintro ⟨amount, sender, forward, rfl, hsender, rfl⟩
    obtain ⟨text, htext⟩ := Option.isSome_iff_exists.mp hsender
    refine ⟨amount, _, rfl, sender, _, rfl, text, htext, forward, rfl, ?_⟩
    rw [← htext]
    rfl

theorem decodeBurn_eq_ok :
    result (decodeOperation lib .burn document) source = .ok filled ↔
      ∃ amount responseDestination customPayload,
        source = JettonFields.encode (.burn amount responseDestination customPayload) ∧
        lib.Allowed responseDestination ∧
        JettonFields.fill lib document (.burn amount responseDestination customPayload) =
          filled := by
  unfold decodeOperation
  simp only [(reads_coins _).result_bind, loadOptionalAddressText_bind,
    (reads_maybe _ (reads_ref _)).result_bind, requireConsumed_bind]
  constructor
  · rintro ⟨amount, _, rfl, response, _, rfl, hresponse, custom, _, rfl, rfl, rfl⟩
    exact ⟨amount, response, custom, rfl, hresponse, rfl⟩
  · rintro ⟨amount, response, custom, rfl, hresponse, rfl⟩
    exact ⟨amount, _, rfl, response, _, rfl, hresponse, custom, _, rfl, rfl, rfl⟩

theorem decodeInternalTransfer_eq_ok :
    result (decodeOperation lib .internalTransfer document) source = .ok filled ↔
      ∃ amount fromAccount responseDestination forwardTonAmount forward,
        source = JettonFields.encode (.internalTransfer amount fromAccount responseDestination
          forwardTonAmount forward) ∧
        lib.Allowed fromAccount ∧ lib.Allowed responseDestination ∧
        JettonFields.fill lib document (.internalTransfer amount fromAccount responseDestination
          forwardTonAmount forward) = filled := by
  unfold decodeOperation
  simp only [(reads_coins _).result_bind, loadOptionalAddressText_bind, forwardPayload_bind]
  constructor
  · rintro ⟨amount, _, rfl, sender, _, rfl, hsender, response, _, rfl, hresponse,
      forwardTonAmount, _, rfl, forward, rfl, rfl⟩
    exact ⟨amount, sender, response, forwardTonAmount, forward, rfl, hsender, hresponse, rfl⟩
  · rintro ⟨amount, sender, response, forwardTonAmount, forward, rfl, hsender, hresponse, rfl⟩
    exact ⟨amount, _, rfl, sender, _, rfl, hsender, response, _, rfl, hresponse,
      forwardTonAmount, _, rfl, forward, rfl, rfl⟩

theorem decodeBurnNotification_eq_ok :
    result (decodeOperation lib .burnNotification document) source = .ok filled ↔
      ∃ amount sender responseDestination,
        source = JettonFields.encode (.burnNotification amount sender responseDestination) ∧
        lib.Required sender ∧ lib.Allowed responseDestination ∧
        JettonFields.fill lib document (.burnNotification amount sender responseDestination) =
          filled := by
  unfold decodeOperation
  simp only [(reads_coins _).result_bind, loadAddressText_bind, loadOptionalAddressText_bind,
    requireConsumed_bind]
  constructor
  · rintro ⟨amount, _, rfl, sender, _, rfl, text, htext, response, _, rfl, hresponse, rfl, rfl⟩
    refine ⟨amount, sender, response, rfl, Option.isSome_iff_exists.mpr ⟨text, htext⟩, hresponse,
      ?_⟩
    rw [← htext]
    rfl
  · rintro ⟨amount, sender, response, rfl, hsender, hresponse, rfl⟩
    obtain ⟨text, htext⟩ := Option.isSome_iff_exists.mp hsender
    refine ⟨amount, _, rfl, sender, _, rfl, text, htext, response, _, rfl, hresponse, rfl, ?_⟩
    rw [← htext]
    rfl

/-- The decoder of an operation returns on complete encodings of its fields,
with the values they encode. -/
theorem decodeOperation_eq_ok {operation : JettonOperation} :
    result (decodeOperation lib operation document) source = .ok filled ↔
      ∃ fields : JettonFields, fields.operation = operation ∧ source = fields.encode ∧
        fields.Addressed lib ∧ fields.fill lib document = filled := by
  constructor
  · intro h
    cases operation with
    | transfer =>
        obtain ⟨amount, destination, response, custom, forwardTonAmount, forward, hsource,
          hdestination, hresponse, hfilled⟩ := decodeTransfer_eq_ok.mp h
        exact ⟨_, rfl, hsource, ⟨hdestination, hresponse⟩, hfilled⟩
    | transferNotification =>
        obtain ⟨amount, sender, forward, hsource, hsender, hfilled⟩ :=
          decodeTransferNotification_eq_ok.mp h
        exact ⟨_, rfl, hsource, hsender, hfilled⟩
    | excesses =>
        obtain ⟨hsource, hfilled⟩ := requireConsumed_bind.mp h
        exact ⟨.excesses, rfl, hsource, trivial, hfilled⟩
    | burn =>
        obtain ⟨amount, response, custom, hsource, hresponse, hfilled⟩ := decodeBurn_eq_ok.mp h
        exact ⟨_, rfl, hsource, hresponse, hfilled⟩
    | internalTransfer =>
        obtain ⟨amount, sender, response, forwardTonAmount, forward, hsource, hsender, hresponse,
          hfilled⟩ := decodeInternalTransfer_eq_ok.mp h
        exact ⟨_, rfl, hsource, ⟨hsender, hresponse⟩, hfilled⟩
    | burnNotification =>
        obtain ⟨amount, sender, response, hsource, hsender, hresponse, hfilled⟩ :=
          decodeBurnNotification_eq_ok.mp h
        exact ⟨_, rfl, hsource, ⟨hsender, hresponse⟩, hfilled⟩
  · rintro ⟨fields, rfl, hsource, haddressed, hfilled⟩
    cases fields with
    | transfer amount destination response custom forwardTonAmount forward =>
        exact decodeTransfer_eq_ok.mpr ⟨amount, destination, response, custom, forwardTonAmount,
          forward, hsource, haddressed.1, haddressed.2, hfilled⟩
    | transferNotification amount sender forward =>
        exact decodeTransferNotification_eq_ok.mpr
          ⟨amount, sender, forward, hsource, haddressed, hfilled⟩
    | excesses => exact requireConsumed_bind.mpr ⟨hsource, hfilled⟩
    | burn amount response custom =>
        exact decodeBurn_eq_ok.mpr ⟨amount, response, custom, hsource, haddressed, hfilled⟩
    | internalTransfer amount sender response forwardTonAmount forward =>
        exact decodeInternalTransfer_eq_ok.mpr ⟨amount, sender, response, forwardTonAmount, forward,
          hsource, haddressed.1, haddressed.2, hfilled⟩
    | burnNotification amount sender response =>
        exact decodeBurnNotification_eq_ok.mpr
          ⟨amount, sender, response, hsource, haddressed.1, haddressed.2, hfilled⟩

end Fields

/-! ## Bodies -/

theorem decodeRecognized_eq_ok {operation : JettonOperation} {document : JettonDocument} :
    result (decodeRecognized lib operation) source = .ok document ↔
      ∃ payload : JettonPayload, payload.fields.operation = operation ∧
        source = Tlb.encodeUint payload.fields.operation.opcode ++
          (Tlb.encodeUint payload.queryId ++ payload.fields.encode) ∧
        payload.fields.Addressed lib ∧ payload.document lib = document := by
  unfold decodeRecognized
  simp only [(reads_uint _ _).result_bind, Tlb.result_lift_bind, check_eq_ok]
  constructor
  · rintro ⟨_, _, rfl, _, rfl, queryId, _, rfl, h⟩
    obtain ⟨fields, rfl, rfl, haddressed, rfl⟩ := decodeOperation_eq_ok.mp h
    exact ⟨⟨queryId, fields⟩, rfl, rfl, haddressed, rfl⟩
  · rintro ⟨payload, rfl, rfl, haddressed, rfl⟩
    exact ⟨_, _, rfl, (), rfl, payload.queryId, _, rfl,
      decodeOperation_eq_ok.mpr ⟨payload.fields, rfl, rfl, haddressed, rfl⟩⟩

theorem ofOpcode_eq_some {value : Uint 32} {operation : JettonOperation} :
    JettonOperation.ofOpcode value = some operation ↔ operation.opcode = value := by
  constructor
  · intro h
    have hfound := List.find?_some h
    exact of_decide_eq_true hfound
  · rintro rfl
    cases operation <;> decide

theorem opcode_injective : Function.Injective JettonOperation.opcode := by
  intro a b h
  exact Option.some.inj ((ofOpcode_eq_some.mpr h).symm.trans (ofOpcode_eq_some.mpr rfl))

/-- The first 32 bits of the body are an opcode of the table. -/
def Recognized (operation : JettonOperation) (body : Tlb.Cell) : Prop :=
  body.bits.take 32 = Tlb.uintBits 32 operation.opcode

theorem ofOpcode_body {body : Tlb.Cell} (h : 32 ≤ body.bits.length) {operation : JettonOperation} :
    JettonOperation.ofOpcode (Tlb.uintOfBits 32 body.bits h) = some operation ↔
      Recognized operation body := by
  rw [ofOpcode_eq_some]
  unfold Recognized
  rw [← Tlb.uintBits_uintOfBits h]
  exact ⟨fun heq => by rw [heq], fun heq => (Tlb.uintBits_injective heq).symm⟩

/-- Exotic cells start with their type, and no opcode does. -/
theorem Recognized.ordinary {operation : JettonOperation} {body : Tlb.Cell}
    (h : Recognized operation body) : body = body.beginParse.toCell := by
  cases body with
  | ordinary bits refs => rfl
  | exotic kind data refs =>
      exfalso
      have htag : Tlb.uintBits 8 kind.tag = (Tlb.uintBits 32 operation.opcode).take 8 := by
        rw [← (h : (Tlb.uintBits 8 kind.tag ++ data).take 32 = _), List.take_take]
        exact (List.take_left' (Tlb.length_uintBits _)).symm
      revert htag
      cases kind <;> cases operation <;> decide

theorem ForwardPayload.encode_injective : Function.Injective ForwardPayload.encode := by
  intro a b h
  cases a with
  | inline bits refs =>
      cases b with
      | inline bits' refs' =>
          cases h
          rfl
      | inRef cell => exact nomatch congrArg Slice.bits h
  | inRef cell =>
      cases b with
      | inline bits refs => exact nomatch congrArg Slice.bits h
      | inRef cell' =>
          cases h
          rfl

/-- A body encodes one payload. -/
theorem body_injective : Function.Injective JettonPayload.body := by
  rintro ⟨queryId, fields⟩ ⟨queryId', fields'⟩ h
  have hslice := congrArg Tlb.Cell.beginParse h
  obtain ⟨hopcode, hquery⟩ := (reads_uint PayloadRaised.slice 32).unique hslice
  obtain ⟨rfl, hfields⟩ := (reads_uint PayloadRaised.slice 64).unique hquery
  have hop : fields.operation = fields'.operation := opcode_injective hopcode
  refine congrArg (JettonPayload.mk queryId) ?_
  have coins : ∀ {a b : Coins} {rest rest' : Slice},
      Tlb.encodeCoins a ++ rest = Tlb.encodeCoins b ++ rest' → a = b ∧ rest = rest' :=
    (reads_coins PayloadRaised.slice).unique
  have address : ∀ {a b : MsgAddress} {rest rest' : Slice},
      Tlb.encodeAddress a ++ rest = Tlb.encodeAddress b ++ rest' → a = b ∧ rest = rest' :=
    (reads_address PayloadRaised.slice).unique
  have custom : ∀ {a b : Option Tlb.Cell} {rest rest' : Slice},
      Tlb.encodeMaybe Tlb.ofRef a ++ rest = Tlb.encodeMaybe Tlb.ofRef b ++ rest' →
        a = b ∧ rest = rest' :=
    (reads_maybe PayloadRaised.slice (reads_ref PayloadRaised.slice)).unique
  cases fields <;> cases fields' <;> cases hop
  case transfer.transfer =>
    obtain ⟨rfl, hdestination⟩ := coins hfields
    obtain ⟨rfl, hresponse⟩ := address hdestination
    obtain ⟨rfl, hcustom⟩ := address hresponse
    obtain ⟨rfl, hforwardTon⟩ := custom hcustom
    obtain ⟨rfl, hforward⟩ := coins hforwardTon
    rw [ForwardPayload.encode_injective hforward]
  case transferNotification.transferNotification =>
    obtain ⟨rfl, hsender⟩ := coins hfields
    obtain ⟨rfl, hforward⟩ := address hsender
    rw [ForwardPayload.encode_injective hforward]
  case excesses.excesses => rfl
  case burn.burn =>
    obtain ⟨rfl, hresponse⟩ := coins hfields
    obtain ⟨rfl, hcustom⟩ := address hresponse
    obtain ⟨rfl, -⟩ := custom hcustom
    rfl
  case internalTransfer.internalTransfer =>
    obtain ⟨rfl, hfrom⟩ := coins hfields
    obtain ⟨rfl, hresponse⟩ := address hfrom
    obtain ⟨rfl, hforwardTon⟩ := address hresponse
    obtain ⟨rfl, hforward⟩ := coins hforwardTon
    rw [ForwardPayload.encode_injective hforward]
  case burnNotification.burnNotification =>
    obtain ⟨rfl, hsender⟩ := coins hfields
    obtain ⟨rfl, hresponse⟩ := address hsender
    obtain ⟨rfl, -⟩ := address hresponse
    rfl

/-- What the decoder says of a body it recognizes. -/
theorem decodeJettonPayload_of_recognized {operation : JettonOperation} {body : Tlb.Cell}
    (h : Recognized operation body) :
    decodeJettonPayload lib body =
      ((result (decodeRecognized lib operation) body.beginParse).mapError
        (·.message)).map some := by
  have hlength : 32 ≤ body.bits.length := by
    have hbits := congrArg List.length (h : body.bits.take 32 = _)
    rw [List.length_take, Tlb.length_uintBits] at hbits
    omega
  unfold decodeJettonPayload
  rw [dif_pos hlength]
  split
  · next hnone =>
      rw [(ofOpcode_body hlength).mpr h] at hnone
      cases hnone
  · next found hfound =>
      rw [(ofOpcode_body hlength).mpr h] at hfound
      cases hfound
      rfl

/-- A body that is recognized as nothing. -/
theorem decodeJettonPayload_of_unrecognized {body : Tlb.Cell}
    (h : ∀ operation, ¬ Recognized operation body) : decodeJettonPayload lib body = .ok none := by
  unfold decodeJettonPayload
  split
  · next hlength =>
      split
      · rfl
      · next operation hfound => exact absurd ((ofOpcode_body hlength).mp hfound) (h operation)
  · rfl

theorem recognized_body (payload : JettonPayload) :
    Recognized payload.fields.operation payload.body := by
  show (Tlb.uintBits 32 payload.fields.operation.opcode ++ _).take 32 = _
  exact List.take_left' (Tlb.length_uintBits _)

/-- The bodies that are decoded, and to what. -/
theorem decodeJettonPayload_eq_some {body : Tlb.Cell} {document : JettonDocument} :
    decodeJettonPayload lib body = .ok (some document) ↔
      ∃ payload : JettonPayload, body = payload.body ∧ payload.fields.Addressed lib ∧
        payload.document lib = document := by
  have hrecognized : ∀ {operation}, Recognized operation body →
      (decodeJettonPayload lib body = .ok (some document) ↔
        result (decodeRecognized lib operation) body.beginParse = .ok document) := by
    intro operation h
    rw [decodeJettonPayload_of_recognized h]
    cases result (decodeRecognized lib operation) body.beginParse with
    | error raised => exact iff_of_false nofun nofun
    | ok found => simp [Except.mapError, Except.map]
  constructor
  · intro h
    by_cases hbody : ∃ operation, Recognized operation body
    · obtain ⟨operation, hoperation⟩ := hbody
      obtain ⟨payload, -, hsource, haddressed, hdocument⟩ :=
        decodeRecognized_eq_ok.mp ((hrecognized hoperation).mp h)
      refine ⟨payload, ?_, haddressed, hdocument⟩
      rw [hoperation.ordinary, hsource]
      rfl
    · rw [decodeJettonPayload_of_unrecognized fun operation hop => hbody ⟨operation, hop⟩] at h
      cases h
  · rintro ⟨payload, rfl, haddressed, rfl⟩
    exact (hrecognized (recognized_body payload)).mpr
      (decodeRecognized_eq_ok.mpr ⟨payload, rfl, rfl, haddressed, rfl⟩)

theorem decodeJettonPayload_eq_none {body : Tlb.Cell} :
    decodeJettonPayload lib body = .ok none ↔ ∀ operation, ¬ Recognized operation body := by
  refine ⟨fun h operation hoperation => ?_, decodeJettonPayload_of_unrecognized⟩
  rw [decodeJettonPayload_of_recognized hoperation] at h
  cases hresult : result (decodeRecognized lib operation) body.beginParse with
  | error raised => rw [hresult] at h; cases h
  | ok found => rw [hresult] at h; cases h

/-! ## Documents -/

/-- Two raw texts are of one address. -/
def CellLibrary.Injective (lib : CellLibrary) : Prop :=
  ∀ a b text, lib.rawText a = some (some text) → lib.rawText b = some (some text) → a = b

theorem written_injective (hlib : lib.Injective) {a b : MsgAddress} (ha : lib.Allowed a)
    (hb : lib.Allowed b) (h : lib.written a = lib.written b) : a = b := by
  have hrequired : ∀ {address}, address ≠ .addrNone → lib.Allowed address →
      ∃ text, lib.written address = some text ∧ lib.rawText address = some (some text) := by
    intro address hne hallowed
    obtain ⟨text, htext⟩ := Option.isSome_iff_exists.mp (hallowed.resolve_left hne)
    refine ⟨text, htext, ?_⟩
    cases address with
    | addrNone => exact absurd rfl hne
    | _ => exact Option.join_eq_some_iff.mp htext
  by_cases hnone : a = .addrNone
  · subst hnone
    refine (Classical.byContradiction fun hne => ?_ : b = .addrNone).symm
    obtain ⟨text, htext, -⟩ := hrequired hne hb
    exact nomatch h.trans htext
  · obtain ⟨text, htext, hraw⟩ := hrequired hnone ha
    by_cases hnone' : b = .addrNone
    · subst hnone'
      exact nomatch htext.symm.trans h
    · obtain ⟨text', htext', hraw'⟩ := hrequired hnone' hb
      cases (htext.symm.trans h).trans htext'
      exact hlib a b text hraw hraw'

theorem fill_operation (document : JettonDocument) (fields : JettonFields) :
    (fields.fill lib document).operation = document.operation := by
  cases fields <;> rfl

theorem fill_queryId (document : JettonDocument) (fields : JettonFields) :
    (fields.fill lib document).queryId = document.queryId := by
  cases fields <;> rfl

/-- The fields of one operation that fill a document alike. -/
theorem fields_injective (hhash : Function.Injective lib.hash) (hlib : lib.Injective)
    {a b : JettonFields} {document document' : JettonDocument} (hop : a.operation = b.operation)
    (ha : a.Minimal) (hb : b.Minimal) (haddressed : a.Addressed lib) (hbddressed : b.Addressed lib)
    (h : a.fill lib document = b.fill lib document') : a = b := by
  have hamount : ∀ {coins coins' : Coins}, coins.Minimal → coins'.Minimal →
      some coins.value.val = some coins'.value.val → coins = coins' :=
    fun hcoins hcoins' heq => Coins.ext_of_minimal hcoins hcoins' (Option.some.inj heq)
  have hcustom : ∀ {cell cell' : Option Tlb.Cell}, cell.map lib.hash = cell'.map lib.hash →
      cell = cell' := fun heq => Option.map_injective hhash heq
  have hforward : ∀ {forward forward' : ForwardPayload},
      some forward.isRef = some forward'.isRef →
      some (lib.hash forward.cell) = some (lib.hash forward'.cell) → forward = forward' :=
    fun hisRef hcell => ForwardPayload.ext_of_cell (Option.some.inj hisRef)
      (hhash (Option.some.inj hcell))
  have amount := congrArg (fun document : JettonDocument => document.amountBaseUnits) h
  have destination := congrArg (fun document : JettonDocument => document.destination) h
  have response := congrArg (fun document : JettonDocument => document.responseDestination) h
  have sender := congrArg (fun document : JettonDocument => document.sender) h
  have fromAccount := congrArg (fun document : JettonDocument => document.fromAccount) h
  have forwardTon := congrArg (fun document : JettonDocument => document.forwardTonAmount) h
  have custom := congrArg (fun document : JettonDocument => document.customPayloadHash) h
  have inRef := congrArg (fun document : JettonDocument => document.forwardPayloadInRef) h
  have payload := congrArg (fun document : JettonDocument => document.forwardPayloadHash) h
  cases a <;> cases b <;> cases hop
  case transfer.transfer =>
    cases hamount ha.1 hb.1 amount
    cases hamount ha.2 hb.2 forwardTon
    cases written_injective hlib (.inr haddressed.1) (.inr hbddressed.1) destination
    cases written_injective hlib haddressed.2 hbddressed.2 response
    cases hcustom custom
    cases hforward inRef payload
    rfl
  case transferNotification.transferNotification =>
    cases hamount ha hb amount
    cases written_injective hlib (.inr haddressed) (.inr hbddressed) sender
    cases hforward inRef payload
    rfl
  case excesses.excesses => rfl
  case burn.burn =>
    cases hamount ha hb amount
    cases written_injective hlib haddressed hbddressed response
    cases hcustom custom
    rfl
  case internalTransfer.internalTransfer =>
    cases hamount ha.1 hb.1 amount
    cases hamount ha.2 hb.2 forwardTon
    cases written_injective hlib haddressed.1 hbddressed.1 fromAccount
    cases written_injective hlib haddressed.2 hbddressed.2 response
    cases hforward inRef payload
    rfl
  case burnNotification.burnNotification =>
    cases hamount ha hb amount
    cases written_injective hlib (.inr haddressed.1) (.inr hbddressed.1) sender
    cases written_injective hlib haddressed.2 hbddressed.2 response
    rfl

/-- The payloads of a document. -/
theorem document_injective (hhash : Function.Injective lib.hash) (hlib : lib.Injective)
    {a b : JettonPayload} (ha : a.fields.Minimal) (hb : b.fields.Minimal)
    (haddressed : a.fields.Addressed lib) (hbddressed : b.fields.Addressed lib)
    (h : a.document lib = b.document lib) : a = b := by
  obtain ⟨queryId, fields⟩ := a
  obtain ⟨queryId', fields'⟩ := b
  have hop : fields.operation = fields'.operation := by
    have heq := congrArg (fun document : JettonDocument => document.operation) h
    simp only [JettonPayload.document, fill_operation] at heq
    exact heq
  have hquery : queryId = queryId' := by
    have heq := congrArg (fun document : JettonDocument => document.queryId) h
    simp only [JettonPayload.document, fill_queryId] at heq
    exact Fin.ext heq
  cases fields_injective hhash hlib hop ha hb haddressed hbddressed h
  cases hquery
  rfl

/-- The body encodes a payload, with amounts as short as they can be. -/
def MinimallyEncoded (body : Tlb.Cell) : Prop :=
  ∃ payload : JettonPayload, body = payload.body ∧ payload.fields.Minimal

end TonTracker
