/-
# `Lib.FormUrlencoded` — fields in a query string

`application/x-www-form-urlencoded`: names and values in UTF-8, with a blank
as `+` and every other byte but a few as `%XX`, joined by `=` and `&`.  The
parser skips empty parts and keeps what is no escape; bytes that are no UTF-8
are `replaced`.  What is printed is parsed back (`parse_print`).
-/
import Mathlib.Data.List.Basic

namespace FormUrlencoded

/-! ## Bytes -/

def hexDigit (n : Nat) : UInt8 := if n < 10 then UInt8.ofNat (48 + n) else UInt8.ofNat (55 + n)

def hexValue (b : UInt8) : Option Nat :=
  if 48 ≤ b ∧ b ≤ 57 then some (b.toNat - 48)
  else if 65 ≤ b ∧ b ≤ 70 then some (b.toNat - 55)
  else if 97 ≤ b ∧ b ≤ 102 then some (b.toNat - 87)
  else none

/-- The bytes that are written as they are: letters, digits and `*-._`. -/
def isPlain (b : UInt8) : Bool :=
  (48 ≤ b && b ≤ 57) || (65 ≤ b && b ≤ 90) || (97 ≤ b && b ≤ 122) ||
    b = 42 || b = 45 || b = 46 || b = 95

def encodeByte (b : UInt8) : List UInt8 :=
  if b = 32 then [43]
  else if isPlain b then [b]
  else [37, hexDigit (b.toNat / 16), hexDigit (b.toNat % 16)]

def plusToBlank (bytes : List UInt8) : List UInt8 := bytes.map fun b => if b = 43 then 32 else b

/-- The byte of an escape. -/
def escaped (b hi lo : UInt8) : Option UInt8 :=
  if b = 37 then
    (hexValue hi).bind fun high => (hexValue lo).map fun low => UInt8.ofNat (16 * high + low)
  else none

def percentDecode : List UInt8 → List UInt8
  | b :: hi :: lo :: rest =>
      match escaped b hi lo with
      | some byte => byte :: percentDecode rest
      | none => b :: percentDecode (hi :: lo :: rest)
  | bytes => bytes

def utf8 (text : List Char) : List UInt8 := text.flatMap String.utf8EncodeChar

/-- The text of some bytes; `replaced` gives that of bytes that are no UTF-8. -/
def decodeUtf8 (replaced : List UInt8 → List Char) (bytes : List UInt8) : List Char :=
  match bytes.toByteArray.utf8Decode? with
  | some text => text.toList
  | none => replaced bytes

/-! ## Fields -/

/-- A name or a value. -/
def encode (text : List Char) : List UInt8 := (utf8 text).flatMap encodeByte

def decode (replaced : List UInt8 → List Char) (bytes : List UInt8) : List Char :=
  decodeUtf8 replaced (percentDecode (plusToBlank bytes))

/-- `name=value`. -/
def printField (field : List Char × List Char) : List UInt8 :=
  encode field.1 ++ 61 :: encode field.2

/-- The characters of ASCII bytes. -/
def asciiText (bytes : List UInt8) : List Char := bytes.map fun b => Char.ofNat b.toNat

def print (fields : List (List Char × List Char)) : List Char :=
  asciiText ([38].intercalate (fields.map printField))

/-- A part of a query string; without `=`, the value is empty. -/
def parseField (replaced : List UInt8 → List Char) (part : List UInt8) : List Char × List Char :=
  (decode replaced (part.takeWhile (· ≠ 61)),
    decode replaced ((part.dropWhile (· ≠ 61)).drop 1))

def parse (replaced : List UInt8 → List Char) (text : List Char) : List (List Char × List Char) :=
  (((utf8 text).splitOn 38).filter (· ≠ [])).map (parseField replaced)

/-! ## What is printed is read back -/

variable {replaced : List UInt8 → List Char}

theorem forall_byte {P : UInt8 → Prop} (h : ∀ n < 256, P (UInt8.ofNat n)) (b : UInt8) : P b := by
  have hb := h b.toNat b.toNat_lt
  rwa [UInt8.ofNat_toNat] at hb

/-- A byte that is no `&`, `=` or `?`, and ASCII. -/
def IsSafe (c : UInt8) : Prop := c ≠ 38 ∧ c ≠ 61 ∧ c ≠ 63 ∧ c < 128

instance (c : UInt8) : Decidable (IsSafe c) := inferInstanceAs (Decidable (_ ∧ _))

theorem encodeByte_safe (b : UInt8) : ∀ c ∈ encodeByte b, IsSafe c := by
  have h : ∀ n < 256, ((encodeByte (UInt8.ofNat n)).all fun c => decide (IsSafe c)) = true := by
    decide +kernel
  have hall := forall_byte (P := fun b => ((encodeByte b).all fun c => decide (IsSafe c)) = true) h b
  exact fun c hc => of_decide_eq_true (List.all_eq_true.mp hall c hc)

/-- How a byte is written, once `+` is a blank again. -/
theorem plusToBlank_encodeByte (b : UInt8) :
    (plusToBlank (encodeByte b) = [b] ∧ b ≠ 37) ∨
      ∃ hi lo, plusToBlank (encodeByte b) = [37, hi, lo] ∧ escaped 37 hi lo = some b := by
  have h : ∀ n < 256, (plusToBlank (encodeByte (UInt8.ofNat n)) = [UInt8.ofNat n] ∧
      UInt8.ofNat n ≠ 37) ∨ (plusToBlank (encodeByte (UInt8.ofNat n)) =
        [37, hexDigit (n / 16), hexDigit (n % 16)] ∧
          escaped 37 (hexDigit (n / 16)) (hexDigit (n % 16)) = some (UInt8.ofNat n)) := by
    decide +kernel
  have hb := h b.toNat b.toNat_lt
  rw [UInt8.ofNat_toNat] at hb
  exact hb.imp_right fun ⟨heq, hescaped⟩ => ⟨_, _, heq, hescaped⟩

theorem percentDecode_cons {b : UInt8} (h : b ≠ 37) (rest : List UInt8) :
    percentDecode (b :: rest) = b :: percentDecode rest := by
  match rest with
  | [] => rfl
  | [c] => rfl
  | hi :: lo :: rest =>
      have hnone : escaped b hi lo = none := if_neg h
      rw [percentDecode, hnone]

theorem percentDecode_escape {hi lo b : UInt8} (h : escaped 37 hi lo = some b)
    (rest : List UInt8) : percentDecode (37 :: hi :: lo :: rest) = b :: percentDecode rest := by
  rw [percentDecode, h]

theorem plusToBlank_append (bytes bytes' : List UInt8) :
    plusToBlank (bytes ++ bytes') = plusToBlank bytes ++ plusToBlank bytes' := List.map_append

theorem percentDecode_encode (bytes : List UInt8) :
    percentDecode (plusToBlank (bytes.flatMap encodeByte)) = bytes := by
  induction bytes with
  | nil => rfl
  | cons b bytes ih =>
      rw [List.flatMap_cons, plusToBlank_append]
      obtain ⟨heq, hne⟩ | ⟨hi, lo, heq, hescaped⟩ := plusToBlank_encodeByte b
      · rw [heq, List.singleton_append, percentDecode_cons hne, ih]
      · rw [heq, List.cons_append, List.cons_append, List.cons_append, List.nil_append,
          percentDecode_escape hescaped, ih]

theorem decodeUtf8_utf8 (text : List Char) : decodeUtf8 replaced (utf8 text) = text := by
  have h : (utf8 text).toByteArray.utf8Decode? = some text.toArray :=
    List.utf8Decode?_utf8Encode
  unfold decodeUtf8
  rw [h]

theorem decode_encode (text : List Char) : decode replaced (encode text) = text := by
  unfold decode encode
  rw [percentDecode_encode, decodeUtf8_utf8]

theorem encode_safe {text : List Char} {c : UInt8} (h : c ∈ encode text) : IsSafe c := by
  obtain ⟨b, -, hc⟩ := List.mem_flatMap.mp h
  exact encodeByte_safe b c hc

variable {field : List Char × List Char} {fields : List (List Char × List Char)}

theorem printField_safe {c : UInt8} (h : c ∈ printField field) : c ≠ 38 ∧ c ≠ 63 ∧ c < 128 := by
  obtain hc | hc := List.mem_append.mp h
  · exact ⟨(encode_safe hc).1, (encode_safe hc).2.2⟩
  · obtain rfl | hc := List.mem_cons.mp hc
    · decide
    · exact ⟨(encode_safe hc).1, (encode_safe hc).2.2⟩

theorem parseField_printField (field : List Char × List Char) :
    parseField replaced (printField field) = field := by
  have hname : ∀ c ∈ encode field.1, decide (c ≠ 61) = true := fun c hc =>
    decide_eq_true (encode_safe hc).2.1
  unfold parseField printField
  rw [List.takeWhile_append_of_pos hname, List.dropWhile_append_of_pos hname,
    List.takeWhile_cons_of_neg (by decide), List.dropWhile_cons_of_neg (by decide),
    List.append_nil, List.drop_one, List.tail_cons, decode_encode, decode_encode]

/-- ASCII bytes are the UTF-8 of their characters. -/
theorem utf8_asciiText {bytes : List UInt8} (h : ∀ b ∈ bytes, b < 128) :
    utf8 (asciiText bytes) = bytes := by
  have hbyte : ∀ n < 128, String.utf8EncodeChar (Char.ofNat n) = [UInt8.ofNat n] := by
    decide +kernel
  unfold utf8 asciiText
  rw [List.flatMap_map]
  induction bytes with
  | nil => rfl
  | cons b bytes ih =>
      rw [List.forall_mem_cons] at h
      rw [List.flatMap_cons, ih h.2, hbyte b.toNat (UInt8.lt_iff_toNat_lt.mp h.1),
        UInt8.ofNat_toNat, List.singleton_append]

/-- The bytes of joined parts are theirs, or `&`. -/
theorem mem_intercalate : ∀ {parts : List (List UInt8)} {b : UInt8}, b ∈ [38].intercalate parts →
    b = 38 ∨ ∃ part ∈ parts, b ∈ part
  | [], _, hb => nomatch hb
  | [part], b, hb => by
      rw [List.intercalate_singleton] at hb
      exact .inr ⟨part, List.mem_cons_self, hb⟩
  | part :: next :: parts, b, hb => by
      rw [List.intercalate_cons_cons, List.append_assoc] at hb
      obtain hb | hb := List.mem_append.mp hb
      · exact .inr ⟨part, List.mem_cons_self, hb⟩
      · obtain rfl | hb := List.mem_cons.mp hb
        · exact .inl rfl
        · exact (mem_intercalate hb).imp_right fun ⟨found, hfound, hmem⟩ =>
            ⟨found, List.mem_cons_of_mem _ hfound, hmem⟩

theorem printed_safe {b : UInt8} (h : b ∈ [38].intercalate (fields.map printField)) :
    b ≠ 63 ∧ b < 128 := by
  obtain rfl | ⟨part, hpart, hb⟩ := mem_intercalate h
  · decide
  · obtain ⟨field, -, rfl⟩ := List.mem_map.mp hpart
    exact (printField_safe hb).2

/-- Nothing that is printed has a `?`. -/
theorem ne_question_of_mem_print {c : Char} (h : c ∈ print fields) : c ≠ '?' := by
  have hbyte : ∀ n < 128, n ≠ 63 → Char.ofNat n ≠ '?' := by decide
  obtain ⟨b, hb, rfl⟩ := List.mem_map.mp h
  obtain ⟨hne, hlt⟩ := printed_safe hb
  refine hbyte b.toNat (UInt8.lt_iff_toNat_lt.mp hlt) fun heq => hne ?_
  rw [← UInt8.ofNat_toNat (x := b), heq]
  rfl

theorem parse_print (replaced : List UInt8 → List Char) (fields : List (List Char × List Char)) :
    parse replaced (print fields) = fields := by
  unfold parse print
  rw [utf8_asciiText fun b hb => (printed_safe hb).2]
  cases fields with
  | nil => rfl
  | cons field fields =>
      rw [List.splitOn_intercalate 38 ?_ ?_, List.filter_eq_self.mpr ?_, List.map_map]
      · refine (List.map_congr_left fun field _ => ?_).trans (List.map_id _)
        exact parseField_printField field
      · intro part hpart
        obtain ⟨field, -, rfl⟩ := List.mem_map.mp hpart
        simp [printField]
      · intro part hpart hmem
        obtain ⟨field, -, rfl⟩ := List.mem_map.mp hpart
        exact (printField_safe hmem).1 rfl
      · exact List.cons_ne_nil _ _

end FormUrlencoded
