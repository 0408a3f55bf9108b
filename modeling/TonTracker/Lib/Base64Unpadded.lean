/-
# `Lib.Base64Unpadded` — octets whose padding is left out

A text whose number of characters is not a multiple of four ends in two or
three characters for one or two octets; a reader that supplies the padding
ignores the bits left over, so a text is read back as it was written
(`decodeUnpadded_encodeUnpadded`) but not the other way round.
-/
import Mathlib.Algebra.Order.Ring.Nat
import TonTracker.Lib.Base64

namespace Base64

variable {alphabet : Alphabet}

theorem high_lt (x : Octet) : (x : ℕ) / 4 < 64 := by omega

theorem middle_lt (x y : Octet) : 16 * ((x : ℕ) % 4) + (y : ℕ) / 16 < 64 := by omega

theorem first_lt (a b : Sextet) : 4 * (a : ℕ) + (b : ℕ) / 16 < 256 := by omega

theorem second_lt (b c : Sextet) : 16 * ((b : ℕ) % 16) + (c : ℕ) / 4 < 256 := by omega

/-- Four characters for three octets, and two or three for what is left. -/
def encodeTail : List Octet → List Sextet
  | [] => []
  | [x] => [⟨x / 4, high_lt x⟩, ⟨16 * (x % 4), by omega⟩]
  | [x, y] => [⟨x / 4, high_lt x⟩, ⟨16 * (x % 4) + y / 16, middle_lt x y⟩,
      ⟨4 * (y % 16), by omega⟩]
  | x :: y :: z :: octets => groupSextets x y z ++ encodeTail octets

/-- The bits left over are ignored; one character more than a multiple of
four is none. -/
def decodeTail : List Sextet → Option (List Octet)
  | [] => some []
  | [_] => none
  | [a, b] => some [⟨4 * a + b / 16, first_lt a b⟩]
  | [a, b, c] => some [⟨4 * a + b / 16, first_lt a b⟩, ⟨16 * (b % 16) + c / 4, second_lt b c⟩]
  | a :: b :: c :: d :: values => (groupOctets a b c d ++ ·) <$> decodeTail values

/-- `urlsafe_b64encode(octets).rstrip("=")`. -/
def encodeUnpadded (alphabet : Alphabet) (octets : List Octet) : List Char :=
  (encodeTail octets).map alphabet.char

/-- `urlsafe_b64decode` of a text of the alphabet and its padding. -/
def decodeUnpadded (alphabet : Alphabet) (text : List Char) : Option (List Octet) :=
  text.mapM alphabet.value? >>= decodeTail

theorem decodeTail_encodeTail (octets : List Octet) :
    decodeTail (encodeTail octets) = some octets := by
  induction octets using encodeTail.induct with
  | case1 => rfl
  | case2 x =>
      simp only [encodeTail, decodeTail, Option.some.injEq, List.cons.injEq, and_true, Fin.ext_iff]
      omega
  | case3 x y =>
      simp only [encodeTail, decodeTail, Option.some.injEq, List.cons.injEq, and_true, Fin.ext_iff]
      omega
  | case4 x y z octets ih =>
      simp only [encodeTail, groupSextets, List.cons_append, List.nil_append, decodeTail, ih,
        groupOctets, Option.map_eq_map, Option.map_some, Option.some.injEq, List.cons.injEq,
        and_true, Fin.ext_iff]
      omega

/-- What is written is read back. -/
theorem decodeUnpadded_encodeUnpadded (alphabet : Alphabet) (octets : List Octet) :
    decodeUnpadded alphabet (encodeUnpadded alphabet octets) = some octets := by
  unfold decodeUnpadded encodeUnpadded
  rw [mapM_value?_eq_some.mpr rfl, Option.bind_eq_bind, Option.bind_some, decodeTail_encodeTail]

theorem length_encodeTail (octets : List Octet) :
    (encodeTail octets).length = (4 * octets.length + 2) / 3 := by
  induction octets using encodeTail.induct with
  | case1 => rfl
  | case2 x => simp only [encodeTail, List.length_cons, List.length_nil]
  | case3 x y => simp only [encodeTail, List.length_cons, List.length_nil]
  | case4 x y z octets ih =>
      simp only [encodeTail, groupSextets, List.cons_append, List.nil_append, List.length_cons, ih]
      omega

theorem length_encodeUnpadded (alphabet : Alphabet) (octets : List Octet) :
    (encodeUnpadded alphabet octets).length = (4 * octets.length + 2) / 3 := by
  rw [encodeUnpadded, List.length_map, length_encodeTail]

theorem mem_encodeUnpadded {octets : List Octet} {c : Char}
    (h : c ∈ encodeUnpadded alphabet octets) : c ∈ alphabet.chars := by
  obtain ⟨v, -, rfl⟩ := List.mem_map.mp h
  exact alphabet.char_mem v

end Base64
