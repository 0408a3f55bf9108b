/-
# `Lib.Base64` — octets in an alphabet of 64 characters

Three octets are written as four characters of six bits each.  Whole groups
are read back exactly, and every text that is read is the one its octets are
written as (`decode_eq_some`); the bits of the octets are those of the
characters (`flatMap_octetBits`).
-/
import Mathlib.Algebra.Order.Ring.Nat
import Mathlib.Data.List.Induction
import Mathlib.Data.List.Nodup
import TonTracker.Lib.ExceptFold

namespace Base64

abbrev Octet := Fin 256
abbrev Sextet := Fin 64

instance neZeroOctet : NeZero 256 := ⟨by decide⟩

/-- The characters of the sextets. -/
structure Alphabet where
  chars : List Char
  length_eq : chars.length = 64
  nodup : chars.Nodup

variable {alphabet : Alphabet} {text : List Char} {c : Char} {v : Sextet} {values : List Sextet}
  {octets : List Octet}

/-! ## Characters -/

def Alphabet.char (alphabet : Alphabet) (v : Sextet) : Char :=
  alphabet.chars.get (v.cast alphabet.length_eq.symm)

def Alphabet.value? (alphabet : Alphabet) (c : Char) : Option Sextet :=
  if h : c ∈ alphabet.chars then
    some (Fin.cast alphabet.length_eq ⟨alphabet.chars.idxOf c, List.idxOf_lt_length_of_mem h⟩)
  else none

theorem Alphabet.value?_eq_some : alphabet.value? c = some v ↔ alphabet.char v = c := by
  unfold Alphabet.value? Alphabet.char
  constructor
  · intro h
    split at h
    · cases h
      simp
    · cases h
  · rintro rfl
    rw [dif_pos (List.get_mem _ _)]
    refine congrArg some (Fin.ext ?_)
    exact List.Nodup.idxOf_getElem alphabet.nodup _ _

theorem Alphabet.char_mem (alphabet : Alphabet) (v : Sextet) : alphabet.char v ∈ alphabet.chars :=
  List.get_mem _ _

theorem Alphabet.char_injective {v v' : Sextet} (h : alphabet.char v = alphabet.char v') :
    v = v' :=
  Option.some.inj ((value?_eq_some.mpr h).symm.trans (value?_eq_some.mpr rfl))

/-! ## Groups -/

/-- The octets of four sextets. -/
def groupOctets (a b c d : Sextet) : List Octet :=
  [⟨4 * a + b / 16, by omega⟩, ⟨16 * (b % 16) + c / 4, by omega⟩, ⟨64 * (c % 4) + d, by omega⟩]

/-- The sextets of three octets. -/
def groupSextets (x y z : Octet) : List Sextet :=
  [⟨x / 4, by omega⟩, ⟨16 * (x % 4) + y / 16, by omega⟩, ⟨4 * (y % 16) + z / 64, by omega⟩,
    ⟨z % 64, by omega⟩]

def decodeValues : List Sextet → Option (List Octet)
  | [] => some []
  | a :: b :: c :: d :: values => (groupOctets a b c d ++ ·) <$> decodeValues values
  | _ => none

/-- Whole groups only. -/
def encodeValues : List Octet → List Sextet
  | x :: y :: z :: octets => groupSextets x y z ++ encodeValues octets
  | _ => []

/-- `base64.b64decode(text, validate=True)` of a text without padding. -/
def decode (alphabet : Alphabet) (text : List Char) : Option (List Octet) :=
  text.mapM alphabet.value? >>= decodeValues

def encode (alphabet : Alphabet) (octets : List Octet) : List Char :=
  (encodeValues octets).map alphabet.char

theorem decodeValues_eq_some :
    decodeValues values = some octets ↔ 3 ∣ octets.length ∧ values = encodeValues octets := by
  induction values using decodeValues.induct generalizing octets with
  | case1 =>
      constructor
      · intro h
        cases h
        exact ⟨⟨0, rfl⟩, rfl⟩
      · rintro ⟨hlength, h⟩
        match octets, hlength with
        | [], _ => rfl
        | [_], hlength => simp at hlength
        | [_, _], hlength => simp at hlength
        | _ :: _ :: _ :: _, _ => cases h
  | case2 a b c d values ih =>
      constructor
      · intro h
        obtain ⟨rest, hrest, rfl⟩ := Option.map_eq_some_iff.mp h
        obtain ⟨hlength, rfl⟩ := ih.mp hrest
        refine ⟨?_, ?_⟩
        · rw [List.length_append]
          exact (Nat.dvd_add_right ⟨1, rfl⟩).mpr hlength
        · simp only [groupOctets, List.cons_append, List.nil_append, encodeValues, groupSextets,
            List.cons.injEq, and_true, Fin.ext_iff]
          omega
      · rintro ⟨hlength, h⟩
        match octets, hlength with
        | [], _ => cases h
        | [_], _ => cases h
        | [_, _], _ => cases h
        | x :: y :: z :: octets, hlength =>
            simp only [encodeValues, groupSextets, List.cons_append, List.nil_append,
              List.cons.injEq] at h
            obtain ⟨rfl, rfl, rfl, rfl, hvalues⟩ := h
            have hlength : 3 ∣ octets.length := by
              rw [List.length_cons, List.length_cons, List.length_cons] at hlength
              omega
            refine Option.map_eq_some_iff.mpr ⟨octets, ih.mpr ⟨hlength, hvalues⟩, ?_⟩
            simp only [groupOctets, List.cons_append, List.nil_append, List.cons.injEq,
              Fin.ext_iff, and_true]
            refine ⟨?_, ?_, ?_⟩
            · omega
            · omega
            · omega
  | case3 values hnil hcons =>
      refine iff_of_false ?_ ?_
      · intro h
        unfold decodeValues at h
        split at h
        · exact hnil rfl
        · exact hcons _ _ _ _ _ rfl
        · cases h
      · rintro ⟨hlength, rfl⟩
        match octets, hlength with
        | [], _ => exact hnil rfl
        | [_], hlength => simp at hlength
        | [_, _], hlength => simp at hlength
        | x :: y :: z :: octets, _ => exact hcons _ _ _ _ _ rfl

/-! ## Texts -/

theorem mapM_value?_eq_some :
    text.mapM alphabet.value? = some values ↔ text = values.map alphabet.char := by
  induction text generalizing values with
  | nil => cases values <;> simp
  | cons c text ih =>
      rw [List.mapM_cons]
      constructor
      · intro h
        obtain ⟨v, hv, h⟩ := Option.bind_eq_some_iff.mp h
        obtain ⟨rest, hrest, h⟩ := Option.bind_eq_some_iff.mp h
        cases h
        rw [List.map_cons, ← ih.mp hrest, Alphabet.value?_eq_some.mp hv]
      · intro h
        cases values with
        | nil => cases h
        | cons v values =>
            obtain ⟨rfl, htext⟩ := List.cons.inj h
            rw [Alphabet.value?_eq_some.mpr rfl, ih.mpr htext]
            rfl

/-- What is read is what is written. -/
theorem decode_eq_some : decode alphabet text = some octets ↔
    3 ∣ octets.length ∧ text = encode alphabet octets := by
  unfold decode encode
  constructor
  · intro h
    obtain ⟨values, hvalues, h⟩ := Option.bind_eq_some_iff.mp h
    obtain ⟨hlength, rfl⟩ := decodeValues_eq_some.mp h
    exact ⟨hlength, mapM_value?_eq_some.mp hvalues⟩
  · rintro ⟨hlength, h⟩
    exact Option.bind_eq_some_iff.mpr
      ⟨_, mapM_value?_eq_some.mpr h, decodeValues_eq_some.mpr ⟨hlength, rfl⟩⟩

theorem length_encodeValues : 3 ∣ octets.length →
    3 * (encodeValues octets).length = 4 * octets.length := by
  intro hlength
  induction octets using encodeValues.induct with
  | case1 x y z octets ih =>
      rw [List.length_cons, List.length_cons, List.length_cons] at hlength
      have hrest := ih (by omega)
      simp only [encodeValues, groupSextets, List.cons_append, List.nil_append, List.length_cons]
      omega
  | case2 octets hcons =>
      match octets, hlength with
      | [], _ => rfl
      | [_], hlength => simp at hlength
      | [_, _], hlength => simp at hlength
      | _ :: _ :: _ :: _, _ => exact absurd rfl (hcons _ _ _ _)

/-! ## Bits -/

/-- The bits of an octet, most significant first. -/
def octetBits (x : Octet) : List Bool :=
  [7, 6, 5, 4, 3, 2, 1, 0].map x.val.testBit

def sextetBits (v : Sextet) : List Bool :=
  [5, 4, 3, 2, 1, 0].map v.val.testBit

theorem testBit_congr {m n i j : Nat} (h : m / 2 ^ i % 2 = n / 2 ^ j % 2) :
    m.testBit i = n.testBit j := by
  rw [Nat.testBit_eq_decide_div_mod_eq, Nat.testBit_eq_decide_div_mod_eq, h]

theorem groupBits (a b c d : Sextet) : (groupOctets a b c d).flatMap octetBits =
    sextetBits a ++ sextetBits b ++ sextetBits c ++ sextetBits d := by
  simp only [groupOctets, octetBits, sextetBits, List.flatMap_cons, List.flatMap_nil, List.map_cons,
    List.map_nil, List.cons_append, List.nil_append, List.cons.injEq, and_true]
  and_intros
  all_goals
    apply testBit_congr
    omega

theorem flatMap_octetBits (h : decodeValues values = some octets) :
    octets.flatMap octetBits = values.flatMap sextetBits := by
  induction values using decodeValues.induct generalizing octets with
  | case1 =>
      cases h
      rfl
  | case2 a b c d values ih =>
      obtain ⟨rest, hrest, rfl⟩ := Option.map_eq_some_iff.mp h
      rw [List.flatMap_append, groupBits, ih hrest]
      simp
  | case3 values hnil hcons =>
      unfold decodeValues at h
      split at h
      · exact absurd rfl hnil
      · exact absurd rfl (hcons _ _ _ _ _)
      · cases h

theorem sextetBits_injective {v v' : Sextet} (h : sextetBits v = sextetBits v') : v = v' := by
  have hvalue : ∀ v : Sextet, v.val = 32 * (v.val / 2 ^ 5 % 2) + 16 * (v.val / 2 ^ 4 % 2) +
      8 * (v.val / 2 ^ 3 % 2) + 4 * (v.val / 2 ^ 2 % 2) + 2 * (v.val / 2 ^ 1 % 2) +
        v.val / 2 ^ 0 % 2 := by
    intro v
    omega
  have hbits := congrArg (List.map Bool.toNat) h
  simp only [sextetBits, List.map_cons, List.map_nil, List.cons.injEq, Nat.toNat_testBit,
    and_true] at hbits
  obtain ⟨h5, h4, h3, h2, h1, h0⟩ := hbits
  exact Fin.ext (by rw [hvalue v, hvalue v', h5, h4, h3, h2, h1, h0])

end Base64
