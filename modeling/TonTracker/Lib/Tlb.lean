/-
# `Lib.Tlb` — cells, and loads that read TL-B values off them

A cell holds bits and references; a slice is what is left of one while it
is read.  A load reads a type when it takes the encoding of a value off the
front of a slice and nothing more (`Reads`).  Such loads compose: a program
that starts with one returns on the slices that start with an encoding, and
goes on with the rest (`Reads.bind`), so a whole program returns exactly on
the encodings of what it has read.  The types are those of TL-B: unsigned
integers, `Maybe`, `^Cell`, `VarUInteger 16` and `MsgAddress`.
-/
import TonTracker.Lib.ExceptFold
import Mathlib.Data.Nat.Bitwise
import Mathlib.Data.List.OfFn

namespace Tlb

open ExceptFold (bind_eq_ok)

/-! ## Integers -/

/-- An unsigned integer of so many bits. -/
abbrev Uint (width : Nat) : Type := Fin (2 ^ width)

/-- The bits of an integer, the most significant first. -/
def uintBits (width : Nat) (value : Uint width) : List Bool :=
  List.ofFn fun i : Fin width => value.val.testBit (width - 1 - i)

/-- The integer with these bits in front. -/
def uintOfBits (width : Nat) (bits : List Bool) (h : width ≤ bits.length) : Uint width :=
  ⟨Nat.ofBits fun i : Fin width => bits[width - 1 - i], Nat.ofBits_lt_two_pow _⟩

@[simp] theorem length_uintBits {width : Nat} (value : Uint width) :
    (uintBits width value).length = width :=
  List.length_ofFn

theorem getElem_uintBits {width : Nat} (value : Uint width) {i : Nat}
    (h : i < (uintBits width value).length) :
    (uintBits width value)[i] = value.val.testBit (width - 1 - i) :=
  List.getElem_ofFn h

theorem uintBits_uintOfBits {width : Nat} {bits : List Bool} (h : width ≤ bits.length) :
    uintBits width (uintOfBits width bits h) = bits.take width := by
  refine List.ext_getElem (by simpa using h) fun i hi _ => ?_
  have hi' : i < width := by simpa using hi
  rw [getElem_uintBits, List.getElem_take]
  refine (Nat.testBit_ofBits_lt _ _ (by omega)).trans ?_
  congr 1
  simp only
  omega

theorem uintOfBits_uintBits {width : Nat} (value : Uint width) (rest : List Bool)
    (h : width ≤ (uintBits width value ++ rest).length) :
    uintOfBits width (uintBits width value ++ rest) h = value := by
  refine Fin.ext ?_
  have hbits : ∀ (i : Fin width) (hi : width - 1 - i < (uintBits width value ++ rest).length),
      (uintBits width value ++ rest)[width - 1 - i] = value.val.testBit i := by
    intro i hi
    rw [List.getElem_append_left (by rw [length_uintBits]; omega)]
    rw [getElem_uintBits]
    congr 1
    omega
  calc (uintOfBits width (uintBits width value ++ rest) h).val
      = Nat.ofBits fun i : Fin width => value.val.testBit i :=
        congrArg (fun f : Fin width → Bool => Nat.ofBits f) (funext fun i => hbits i _)
    _ = value.val % 2 ^ width := Nat.ofBits_testBit _ _
    _ = value.val := Nat.mod_eq_of_lt value.isLt

theorem uintBits_injective {width : Nat} : Function.Injective (uintBits width) := by
  intro a b h
  have hle : ∀ value : Uint width, width ≤ (uintBits width value ++ []).length := by simp
  rw [← uintOfBits_uintBits a [] (hle a), ← uintOfBits_uintBits b [] (hle b)]
  simp only [h]

/-! ## Cells and slices -/

inductive ExoticKind where
  | prunedBranch
  | library
  | merkleProof
  | merkleUpdate
deriving DecidableEq

instance neZeroByte : NeZero (2 ^ 8) := ⟨by decide⟩

/-- The type of an exotic cell, as it is written. -/
def ExoticKind.tag : ExoticKind → Uint 8
  | prunedBranch => 1
  | library => 2
  | merkleProof => 3
  | merkleUpdate => 4

/-- A cell; an exotic one has its type in front of its data. -/
inductive Cell where
  | ordinary (bits : List Bool) (refs : List Cell)
  | exotic (kind : ExoticKind) (data : List Bool) (refs : List Cell)

def Cell.bits : Cell → List Bool
  | ordinary bits _ => bits
  | exotic kind data _ => uintBits 8 kind.tag ++ data

def Cell.refs : Cell → List Cell
  | ordinary _ refs => refs
  | exotic _ _ refs => refs

/-- What is left of a cell. -/
@[ext]
structure Slice where
  bits : List Bool
  refs : List Cell

/-- `begin_parse`. -/
def Cell.beginParse (cell : Cell) : Slice := ⟨cell.bits, cell.refs⟩

/-- `to_cell`, of a slice of an ordinary cell. -/
def Slice.toCell (slice : Slice) : Cell := .ordinary slice.bits slice.refs

/-- One slice after another. -/
instance : Append Slice := ⟨fun a b => ⟨a.bits ++ b.bits, a.refs ++ b.refs⟩⟩

@[simp] theorem Slice.bits_append (a b : Slice) : (a ++ b).bits = a.bits ++ b.bits := rfl

@[simp] theorem Slice.refs_append (a b : Slice) : (a ++ b).refs = a.refs ++ b.refs := rfl

theorem Slice.append_assoc (a b c : Slice) : a ++ b ++ c = a ++ (b ++ c) :=
  Slice.ext (List.append_assoc _ _ _) (List.append_assoc _ _ _)

/-- A slice of bits. -/
def ofBits (bits : List Bool) : Slice := ⟨bits, []⟩

/-- A slice of one reference. -/
def ofRef (cell : Cell) : Slice := ⟨[], [cell]⟩

/-! ## Loads -/

section Loads

variable {ε α β : Type}

/-- A program that reads a slice and may raise. -/
abbrev Load (ε : Type) : Type → Type := StateT Slice (Except ε)

/-- What a load returns, whatever it leaves. -/
def result (load : Load ε α) (source : Slice) : Except ε α := do
  let (value, _) ← load source
  return value

/-- The load takes the encoding of a value off a slice. -/
def Reads (load : Load ε α) (encode : α → Slice) : Prop :=
  ∀ (source rest : Slice) (value : α),
    load source = .ok (value, rest) ↔ source = encode value ++ rest

theorem result_eq_ok {load : Load ε α} {source : Slice} {value : α} :
    result load source = .ok value ↔ ∃ rest, load source = .ok (value, rest) := by
  unfold result
  rw [bind_eq_ok]
  constructor
  · rintro ⟨⟨value, rest⟩, h, heq⟩
    cases heq
    exact ⟨rest, h⟩
  · rintro ⟨rest, h⟩
    exact ⟨_, h, rfl⟩

/-- A load, and what follows it. -/
theorem Reads.bind {load : Load ε α} {encode : α → Slice} (h : Reads load encode)
    {next : α → Load ε β} {source : Slice} {final : β × Slice} :
    (load >>= next) source = .ok final ↔
      ∃ value rest, source = encode value ++ rest ∧ next value rest = .ok final := by
  show (load source >>= fun p => next p.1 p.2) = .ok final ↔ _
  rw [bind_eq_ok]
  constructor
  · rintro ⟨⟨value, rest⟩, hload, hnext⟩
    exact ⟨value, rest, (h source rest value).mp hload, hnext⟩
  · rintro ⟨value, rest, hsource, hnext⟩
    exact ⟨(value, rest), (h source rest value).mpr hsource, hnext⟩

/-- What a load reads is known from its encoding. -/
theorem Reads.unique {load : Load ε α} {encode : α → Slice} (h : Reads load encode) {a b : α}
    {rest rest' : Slice} (heq : encode a ++ rest = encode b ++ rest') : a = b ∧ rest = rest' := by
  have hload := ((h _ rest a).mpr rfl).symm.trans ((h _ rest' b).mpr heq)
  cases hload
  exact ⟨rfl, rfl⟩

theorem Reads.result_bind {load : Load ε α} {encode : α → Slice} (h : Reads load encode)
    {next : α → Load ε β} {source : Slice} {final : β} :
    result (load >>= next) source = .ok final ↔
      ∃ value rest, source = encode value ++ rest ∧ result (next value) rest = .ok final := by
  simp only [result_eq_ok, h.bind]
  constructor
  · rintro ⟨left, value, rest, hsource, hnext⟩
    exact ⟨value, rest, hsource, left, hnext⟩
  · rintro ⟨value, rest, hsource, left, hnext⟩
    exact ⟨left, value, rest, hsource, hnext⟩

/-- The last load of a program. -/
theorem result_map {load : Load ε α} {f : α → β} {source : Slice} {final : β} :
    result (do return f (← load)) source = .ok final ↔
      ∃ value, result load source = .ok value ∧ f value = final := by
  simp only [result_eq_ok]
  constructor
  · rintro ⟨rest, h⟩
    obtain ⟨⟨value, left⟩, hload, heq⟩ := bind_eq_ok.mp h
    cases heq
    exact ⟨value, ⟨_, hload⟩, rfl⟩
  · rintro ⟨value, ⟨left, hload⟩, rfl⟩
    exact ⟨left, bind_eq_ok.mpr ⟨_, hload, rfl⟩⟩

/-- A step that reads nothing, and what follows it. -/
theorem result_lift_bind {step : Except ε α} {next : α → Load ε β} {source : Slice} {final : β} :
    result (StateT.lift step >>= next) source = .ok final ↔
      ∃ value, step = .ok value ∧ result (next value) source = .ok final := by
  cases step with
  | ok value =>
      constructor
      · exact fun h => ⟨value, rfl, h⟩
      · rintro ⟨_, heq, h⟩
        cases heq
        exact h
  | error raised =>
      constructor
      · exact fun h => nomatch h
      · rintro ⟨_, heq, -⟩
        cases heq

/-! ## Bits and references -/

/-- `load_bit`. -/
def loadBit (raised : ε) : Load ε Bool := fun source =>
  match source.bits with
  | [] => .error raised
  | bit :: bits => .ok (bit, ⟨bits, source.refs⟩)

/-- `load_uint`. -/
def loadUint (raised : ε) (width : Nat) : Load ε (Uint width) := fun source =>
  if h : width ≤ source.bits.length then
    .ok (uintOfBits width source.bits h, ⟨source.bits.drop width, source.refs⟩)
  else .error raised

/-- `load_ref`. -/
def loadRef (raised : ε) : Load ε Cell := fun source =>
  match source.refs with
  | [] => .error raised
  | cell :: refs => .ok (cell, ⟨source.bits, refs⟩)

def encodeUint {width : Nat} (value : Uint width) : Slice := ofBits (uintBits width value)

theorem reads_bit (raised : ε) : Reads (loadBit raised) fun bit => ofBits [bit] := by
  rintro ⟨bits, refs⟩ ⟨left, leftRefs⟩ value
  cases bits with
  | nil => exact iff_of_false nofun fun h => nomatch congrArg Slice.bits h
  | cons bit bits =>
      constructor
      · intro h
        cases h
        rfl
      · intro h
        cases h
        rfl

theorem reads_uint (raised : ε) (width : Nat) : Reads (loadUint raised width) encodeUint := by
  intro source rest value
  unfold loadUint
  constructor
  · intro h
    split at h
    · next hwidth =>
        cases h
        refine Slice.ext ?_ rfl
        show source.bits = uintBits width (uintOfBits width source.bits hwidth) ++ _
        rw [uintBits_uintOfBits, List.take_append_drop]
    · cases h
  · rintro rfl
    have hwidth : width ≤ (encodeUint value ++ rest).bits.length := by
      simp [encodeUint, ofBits]
    rw [dif_pos hwidth]
    refine congrArg Except.ok (Prod.ext (uintOfBits_uintBits value rest.bits hwidth) ?_)
    exact Slice.ext (List.drop_left' (length_uintBits value)) rfl

theorem reads_ref (raised : ε) : Reads (loadRef raised) ofRef := by
  rintro ⟨bits, refs⟩ ⟨left, leftRefs⟩ value
  cases refs with
  | nil => exact iff_of_false nofun fun h => nomatch congrArg Slice.refs h
  | cons cell refs =>
      constructor
      · intro h
        cases h
        rfl
      · intro h
        cases h
        rfl

/-! ## Optional values -/

/-- A bit, and a value behind a one. -/
def loadMaybe (raised : ε) (load : Load ε α) : Load ε (Option α) := do
  match ← loadBit raised with
  | false => return none
  | true => return some (← load)

def encodeMaybe (encode : α → Slice) : Option α → Slice
  | none => ofBits [false]
  | some value => ofBits [true] ++ encode value

theorem reads_maybe (raised : ε) {load : Load ε α} {encode : α → Slice} (h : Reads load encode) :
    Reads (loadMaybe raised load) (encodeMaybe encode) := by
  intro source rest value
  unfold loadMaybe
  rw [(reads_bit raised).bind]
  constructor
  · rintro ⟨bit, left, rfl, hnext⟩
    cases bit with
    | false =>
        cases hnext
        rfl
    | true =>
        obtain ⟨read, left, rfl, heq⟩ := h.bind.mp hnext
        cases heq
        exact (Slice.append_assoc _ _ _).symm
  · rintro rfl
    cases value with
    | none => exact ⟨false, rest, rfl, rfl⟩
    | some value =>
        exact ⟨true, encode value ++ rest, Slice.append_assoc _ _ _,
          h.bind.mpr ⟨value, rest, rfl, rfl⟩⟩

/-! ## `VarUInteger 16` -/

/-- An amount, with the length in bytes it is written in. -/
structure Coins where
  length : Uint 4
  value : Uint (8 * length.val)

/-- `load_coins`. -/
def loadCoins (raised : ε) : Load ε Coins := do
  let length ← loadUint raised 4
  let value ← loadUint raised (8 * length.val)
  return ⟨length, value⟩

def encodeCoins (coins : Coins) : Slice := encodeUint coins.length ++ encodeUint coins.value

theorem reads_coins (raised : ε) : Reads (loadCoins raised) encodeCoins := by
  intro source rest coins
  unfold loadCoins
  rw [(reads_uint raised 4).bind]
  constructor
  · rintro ⟨length, left, rfl, hnext⟩
    obtain ⟨value, left, rfl, heq⟩ := (reads_uint raised _).bind.mp hnext
    cases heq
    exact (Slice.append_assoc _ _ _).symm
  · rintro rfl
    exact ⟨coins.length, encodeUint coins.value ++ rest, Slice.append_assoc _ _ _,
      (reads_uint raised _).bind.mpr ⟨coins.value, rest, rfl, rfl⟩⟩

/-- No shorter length holds the amount. -/
def Coins.Minimal (coins : Coins) : Prop :=
  ∀ length < coins.length.val, 2 ^ (8 * length) ≤ coins.value.val

theorem Coins.ext_of_minimal {a b : Coins} (ha : a.Minimal) (hb : b.Minimal)
    (h : a.value.val = b.value.val) : a = b := by
  obtain ⟨length, value⟩ := a
  obtain ⟨length', value'⟩ := b
  have hlength : length = length' := by
    refine Fin.ext (le_antisymm (le_of_not_gt fun hlt => ?_) (le_of_not_gt fun hlt => ?_))
    · exact absurd value'.isLt (not_lt.mpr (h ▸ ha length'.val hlt))
    · exact absurd value.isLt (not_lt.mpr (h ▸ hb length.val hlt))
  subst hlength
  exact congrArg (Coins.mk length) (Fin.ext h)

/-! ## `MsgAddress` -/

/-- `anycast_info`. -/
structure Anycast where
  depth : Uint 5
  bounded : 1 ≤ depth.val ∧ depth.val ≤ 30
  rewritePfx : Uint depth.val

inductive MsgAddress where
  | addrNone
  | addrExtern (length : Uint 9) (address : Uint length.val)
  | addrStd (anycast : Option Anycast) (workchain : Uint 8) (address : Uint 256)
  | addrVar (anycast : Option Anycast) (length : Uint 9) (workchain : Uint 32)
      (address : Uint length.val)

def loadAnycast (raised : ε) : Load ε Anycast := do
  let depth ← loadUint raised 5
  if h : 1 ≤ depth.val ∧ depth.val ≤ 30 then return ⟨depth, h, ← loadUint raised depth.val⟩
  else throw raised

def encodeAnycast (anycast : Anycast) : Slice :=
  encodeUint anycast.depth ++ encodeUint anycast.rewritePfx

/-- `load_address`. -/
def loadAddress (raised : ε) : Load ε MsgAddress := do
  let first ← loadBit raised
  let second ← loadBit raised
  match first, second with
  | false, false => return .addrNone
  | false, true => do
      let length ← loadUint raised 9
      return .addrExtern length (← loadUint raised length.val)
  | true, false => do
      let anycast ← loadMaybe raised (loadAnycast raised)
      let workchain ← loadUint raised 8
      return .addrStd anycast workchain (← loadUint raised 256)
  | true, true => do
      let anycast ← loadMaybe raised (loadAnycast raised)
      let length ← loadUint raised 9
      let workchain ← loadUint raised 32
      return .addrVar anycast length workchain (← loadUint raised length.val)

def encodeAddress : MsgAddress → Slice
  | .addrNone => ofBits [false] ++ ofBits [false]
  | .addrExtern length address =>
      ofBits [false] ++ (ofBits [true] ++ (encodeUint length ++ encodeUint address))
  | .addrStd anycast workchain address =>
      ofBits [true] ++ (ofBits [false] ++ (encodeMaybe encodeAnycast anycast ++
        (encodeUint workchain ++ encodeUint address)))
  | .addrVar anycast length workchain address =>
      ofBits [true] ++ (ofBits [true] ++ (encodeMaybe encodeAnycast anycast ++
        (encodeUint length ++ (encodeUint workchain ++ encodeUint address))))

theorem reads_anycast (raised : ε) : Reads (loadAnycast raised) encodeAnycast := by
  intro source rest anycast
  unfold loadAnycast
  rw [(reads_uint raised 5).bind]
  constructor
  · rintro ⟨depth, left, rfl, hnext⟩
    split at hnext
    · obtain ⟨prefixBits, left, rfl, heq⟩ := (reads_uint raised _).bind.mp hnext
      cases heq
      exact (Slice.append_assoc _ _ _).symm
    · cases hnext
  · rintro rfl
    refine ⟨anycast.depth, encodeUint anycast.rewritePfx ++ rest, Slice.append_assoc _ _ _, ?_⟩
    rw [dif_pos anycast.bounded]
    exact (reads_uint raised _).bind.mpr ⟨anycast.rewritePfx, rest, rfl, rfl⟩

theorem reads_address (raised : ε) : Reads (loadAddress raised) encodeAddress := by
  intro source rest address
  unfold loadAddress
  simp only [(reads_bit raised).bind]
  constructor
  · rintro ⟨first, left, rfl, second, left, rfl, hnext⟩
    cases first <;> cases second
    · cases hnext
      rfl
    · obtain ⟨length, left, rfl, hvalue⟩ := (reads_uint raised 9).bind.mp hnext
      obtain ⟨value, left, rfl, heq⟩ := (reads_uint raised _).bind.mp hvalue
      cases heq
      simp only [encodeAddress, Slice.append_assoc]
    · obtain ⟨anycast, left, rfl, hchain⟩ :=
        (reads_maybe raised (reads_anycast raised)).bind.mp hnext
      obtain ⟨workchain, left, rfl, hvalue⟩ := (reads_uint raised 8).bind.mp hchain
      obtain ⟨value, left, rfl, heq⟩ := (reads_uint raised _).bind.mp hvalue
      cases heq
      simp only [encodeAddress, Slice.append_assoc]
    · obtain ⟨anycast, left, rfl, hlength⟩ :=
        (reads_maybe raised (reads_anycast raised)).bind.mp hnext
      obtain ⟨length, left, rfl, hchain⟩ := (reads_uint raised 9).bind.mp hlength
      obtain ⟨workchain, left, rfl, hvalue⟩ := (reads_uint raised 32).bind.mp hchain
      obtain ⟨value, left, rfl, heq⟩ := (reads_uint raised _).bind.mp hvalue
      cases heq
      simp only [encodeAddress, Slice.append_assoc]
  · rintro rfl
    cases address with
    | addrNone => exact ⟨false, _, Slice.append_assoc _ _ _, false, rest, rfl, rfl⟩
    | addrExtern length value =>
        simp only [encodeAddress, Slice.append_assoc]
        exact ⟨false, _, rfl, true, _, rfl, (reads_uint raised 9).bind.mpr ⟨length, _, rfl,
          (reads_uint raised _).bind.mpr ⟨value, rest, rfl, rfl⟩⟩⟩
    | addrStd anycast workchain value =>
        simp only [encodeAddress, Slice.append_assoc]
        exact ⟨true, _, rfl, false, _, rfl,
          (reads_maybe raised (reads_anycast raised)).bind.mpr ⟨anycast, _, rfl,
            (reads_uint raised 8).bind.mpr ⟨workchain, _, rfl,
              (reads_uint raised _).bind.mpr ⟨value, rest, rfl, rfl⟩⟩⟩⟩
    | addrVar anycast length workchain value =>
        simp only [encodeAddress, Slice.append_assoc]
        exact ⟨true, _, rfl, true, _, rfl,
          (reads_maybe raised (reads_anycast raised)).bind.mpr ⟨anycast, _, rfl,
            (reads_uint raised 9).bind.mpr ⟨length, _, rfl,
              (reads_uint raised 32).bind.mpr ⟨workchain, _, rfl,
                (reads_uint raised _).bind.mpr ⟨value, rest, rfl, rfl⟩⟩⟩⟩⟩

end Loads

end Tlb
