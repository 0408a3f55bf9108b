/-
# `Cursors.Exact` — each cursor is the encoding of its document

A well-formed document is short enough for the decoder (`length_payload`),
and its cursor comes apart again at the dot (`openCursor_sealed`), so it is
read back.  In the other direction the decoders compare the cursor with the
encoding of what they return, which leaves no second spelling; where
signatures are not forged, what they return is a document of the service.
-/
import TonTracker.Services.OpaqueCursors

namespace TonTracker

open Base64 (Octet encodeUnpadded decodeUnpadded)
open ExceptFold (bind_eq_ok)

/-! ## The length of a document -/

theorem jsonString_plain {s : Text} (h : s.all isPlain = true) :
    jsonString s = '"' :: (s ++ ['"']) := by
  have hchar : ∀ c, isPlain c = true → jsonChar c = [c] := by
    intro c hc
    simp only [isPlain, Bool.and_eq_true, decide_eq_true_eq] at hc
    obtain ⟨⟨⟨hlow, hhigh⟩, hquote⟩, hslash⟩ := hc
    have hne : ∀ d : Char, d.toNat < 32 → c ≠ d := by
      rintro d hd rfl
      omega
    unfold jsonChar
    rw [if_neg hquote, if_neg hslash, if_neg (hne '\n' (by decide)), if_neg (hne '\r' (by decide)),
      if_neg (hne '\t' (by decide)), if_neg (by omega), if_neg (by omega),
      if_pos ⟨hlow, hhigh⟩]
  unfold jsonString
  congr 2
  induction s with
  | nil => rfl
  | cons c s ih =>
      rw [List.all_cons, Bool.and_eq_true] at h
      rw [List.flatMap_cons, hchar c h.1, ih h.2]
      rfl

theorem length_jsonString_plain {s : Text} (h : s.all isPlain = true) :
    (jsonString s).length = s.length + 2 := by
  rw [jsonString_plain h]
  simp

theorem isPlain_of_hex {c : Char} (h : isLowerHexDigit c = true) : isPlain c = true := by
  have hquote : c ≠ '"' := by rintro rfl; exact absurd h (by decide)
  have hslash : c ≠ '\\' := by rintro rfl; exact absurd h (by decide)
  simp only [isLowerHexDigit, FixedDigits.isDigit, Bool.or_eq_true, Bool.and_eq_true,
    decide_eq_true_eq, Char.le_def, UInt32.le_iff_toNat_le] at h
  have hbounds : 48 ≤ c.toNat ∧ c.toNat ≤ 102 := by
    rcases h with ⟨hlow, hhigh⟩ | ⟨hlow, hhigh⟩
    · exact ⟨hlow, le_trans hhigh (by decide)⟩
    · exact ⟨le_trans (by decide) hlow, hhigh⟩
  simp only [isPlain, Bool.and_eq_true, decide_eq_true_eq]
  exact ⟨⟨⟨by omega, by omega⟩, hquote⟩, hslash⟩

/-- The characters of a time are plain. -/
theorem isPlain_of_digit {c : Char} (h : FixedDigits.isDigit c = true) : isPlain c = true :=
  isPlain_of_hex (by rw [isLowerHexDigit, h, Bool.true_or])

theorem padded_plain {width n : Nat} (h : n < 10 ^ width) :
    (FixedDigits.padded width n).all isPlain = true :=
  List.all_eq_true.mpr fun _ hc => isPlain_of_digit (FixedDigits.isDigit_of_mem_padded h hc)

theorem isoformat_plain (t : Instant) : t.isoformat.all isPlain = true := by
  have hhour : t.hourOfDay < 10 ^ 2 := Nat.lt_trans t.hour_lt (by decide)
  have hminute : t.minuteOfHour < 10 ^ 2 := Nat.lt_trans t.minute_lt (by decide)
  have hsecond : t.secondOfMinute < 10 ^ 2 := Nat.lt_trans t.secondOfMinute_lt (by decide)
  have hfraction : t.fractionText.all isPlain = true := by
    unfold Instant.fractionText
    split
    · rfl
    · rw [List.all_cons, padded_plain (t.fraction_lt : t.fraction < 10 ^ 6)]
      rfl
  unfold Instant.isoformat Instant.dateText Instant.clockText
  simp only [List.all_append, List.all_cons, padded_plain t.year_lt, padded_plain t.month_lt,
    padded_plain t.day_lt, padded_plain hhour, padded_plain hminute, padded_plain hsecond,
    hfraction]
  decide

theorem HexDigest.plain (d : HexDigest) : d.text.all isPlain = true :=
  List.all_eq_true.mpr fun c hc => isPlain_of_hex (List.all_eq_true.mp d.hex c hc)

theorem CanonicalUuid.length (u : CanonicalUuid) : u.text.length = 36 := by
  have h := u.canonical
  simp only [isCanonicalUuid, Bool.and_eq_true, decide_eq_true_eq] at h
  exact h.1.1.1

theorem CanonicalUuid.plain (u : CanonicalUuid) : u.text.all isPlain = true := by
  have h := u.canonical
  simp only [isCanonicalUuid, Bool.and_eq_true] at h
  refine List.all_eq_true.mpr fun c hc => ?_
  have hfst : c ∈ u.text.zipIdx.map Prod.fst := by rwa [List.zipIdx_map_fst]
  obtain ⟨⟨d, i⟩, hi, rfl⟩ := List.mem_map.mp hfst
  have hd := List.all_eq_true.mp h.1.1.2 _ hi
  dsimp only at hd ⊢
  split at hd
  · rw [of_decide_eq_true hd]
    rfl
  · exact isPlain_of_hex hd

theorem length_commaJoined (texts : List Text) :
    (commaJoined texts).length ≤ (texts.map fun text => text.length + 1).sum := by
  induction texts with
  | nil => exact Nat.zero_le _
  | cons text texts ih =>
      cases texts with
      | nil => simp [commaJoined]
      | cons next texts =>
          simp only [commaJoined, List.length_append, List.length_cons, List.map_cons,
            List.sum_cons] at ih ⊢
          omega

/-- A value whose text has at most `n` characters. -/
def DumpFits (lib : CursorLibrary) (allowNan : Bool) (value : Json) (n : Nat) : Prop :=
  ∃ text, dumpedText lib allowNan value = some text ∧ text.length ≤ n

section DumpFits

variable {lib : CursorLibrary} {allowNan : Bool}

theorem fits_str {s : Text} {n : Nat} (h : s.all isPlain = true) (hn : s.length + 2 ≤ n) :
    DumpFits lib allowNan (.str s) n :=
  ⟨jsonString s, by rw [dumpedText], by rwa [length_jsonString_plain h]⟩

theorem fits_null : DumpFits lib allowNan .null 4 := ⟨_, by rw [dumpedText], by decide⟩

theorem fits_nat {n k : Nat} (hk : 0 < k) (h : n < 10 ^ k) : DumpFits lib allowNan (.int n) k := by
  refine ⟨Nat.toDigits 10 n, ?_, ?_⟩
  · rw [dumpedText, if_neg (Int.natCast_nonneg n).not_gt, Int.natAbs_natCast]
  · exact (Nat.length_toDigits_le_iff (by decide) hk).mpr h

theorem sortedMembers_eq {members : List (String × Text)}
    (h : (members.map Prod.fst).Pairwise (· ≤ ·)) : sortedMembers members = members :=
  List.mergeSort_of_pairwise ((List.pairwise_map.mp h).imp decide_eq_true)

/-- An object whose keys are in order, from the bounds of its values. -/
theorem fits_obj (keys : List String) (bounds : List Nat) {fields : CursorDocument}
    (hkeys : fields.map Prod.fst = keys) (sorted : keys.Pairwise (· ≤ ·))
    (fits : List.Forall₂ (fun field n => DumpFits lib allowNan field.2 n) fields bounds)
    {total : Nat}
    (htotal : 2 + (List.zipWith (fun key n => (jsonString key.toList).length + n + 2)
      keys bounds).sum ≤ total) :
    DumpFits lib allowNan (.obj fields) total := by
  have hmembers : ∃ members, dumpedMembers lib allowNan fields = some members ∧
      members.map Prod.fst = keys ∧
      (members.map fun member => (jsonString member.1.toList ++ ':' :: member.2).length + 1).sum ≤
        (List.zipWith (fun key n => (jsonString key.toList).length + n + 2) keys bounds).sum := by
    clear sorted htotal
    subst hkeys
    induction fits with
    | nil => exact ⟨[], by rw [dumpedMembers], rfl, le_rfl⟩
    | @cons field n fields bounds hfield _ ih =>
        obtain ⟨members, hmembers, hkeys, hsum⟩ := ih
        obtain ⟨text, htext, hlength⟩ := hfield
        obtain ⟨key, value⟩ := field
        refine ⟨(key, text) :: members, ?_, ?_, ?_⟩
        · rw [dumpedMembers, htext, Option.bind_some, hmembers, Option.map_some]
        · rw [List.map_cons, hkeys, List.map_cons]
        · simp only [List.map_cons, List.zipWith_cons_cons, List.sum_cons, List.length_append,
            List.length_cons] at hsum ⊢
          have hlength : text.length ≤ n := hlength
          omega
  obtain ⟨members, hmembers, hkeys', hsum⟩ := hmembers
  refine ⟨_, by rw [dumpedText, hmembers, Option.map_some, sortedMembers_eq (hkeys' ▸ sorted)], ?_⟩
  have hjoined := length_commaJoined
    (members.map fun member => jsonString member.1.toList ++ ':' :: member.2)
  rw [List.map_map] at hjoined
  simp only [List.length_cons, List.length_append, List.length_nil]
  have hsum' := hjoined.trans hsum
  omega

end DumpFits

/-- The documents that fit a cursor: their text has at most 719 characters. -/
def ShortEnough (lib : CursorLibrary) (kind : CursorKind) (document : CursorDocument) : Prop :=
  DumpFits lib (decide (kind ≠ .activity)) (.obj document) 719

theorem CaseCatalogCursor.shortEnough (lib : CursorLibrary) (c : CaseCatalogCursor) :
    ShortEnough lib .caseCatalog c.document := by
  have rowId : ∀ id : RowId, id.val < 10 ^ 19 := fun id => id.bounded.trans (by decide)
  have digest : ∀ d : HexDigest, DumpFits lib true (.str d.text) 66 := fun d =>
    fits_str d.plain (by rw [d.length])
  refine fits_obj ["after", "cutoff", "filters", "scope", "state", "v"]
    [19, 19, 66, 66, 10, 1] rfl (by decide)
    (.cons (fits_nat (by decide) (rowId _)) (.cons (fits_nat (by decide) (rowId _))
      (.cons (digest _) (.cons (digest _) (.cons ?_ (.cons ?_ .nil)))))) (by decide)
  · show DumpFits lib true (.str _) 10
    split
    · exact fits_str (by decide) (by decide)
    · exact fits_str (by decide) (by decide)
  · exact fits_nat (by decide) (by decide)

theorem CheckpointHistoryCursor.shortEnough (lib : CursorLibrary) (c : CheckpointHistoryCursor) :
    ShortEnough lib .checkpointHistory c.document := by
  have id : ∀ d : HexDigest, DumpFits lib true (.str (checkpointId d)) 70 := fun d => by
    refine fits_str ?_ ?_
    · rw [checkpointId, List.all_append, d.plain]
      rfl
    · rw [checkpointId, List.length_append, d.length]
      decide
  refine fits_obj ["after", "case", "cutoff", "v"] [70, 38, 70, 1] rfl (by decide)
    (.cons (id _) (.cons ?_ (.cons (id _) (.cons ?_ .nil)))) (by decide)
  · exact fits_str c.casePublicId.plain (by rw [c.casePublicId.length])
  · exact fits_nat (by decide) (by decide)

theorem fits_uuid (lib : CursorLibrary) (allowNan : Bool) (u : CanonicalUuid) :
    DumpFits lib allowNan (.str u.text) 38 :=
  fits_str u.plain (by rw [u.length])

theorem BackfillOutcomeHistoryCursor.shortEnough (lib : CursorLibrary)
    (c : BackfillOutcomeHistoryCursor) :
    ShortEnough lib .backfillOutcomeHistory c.document :=
  fits_obj ["after", "case", "cutoff", "v"] [38, 38, 38, 1] rfl (by decide)
    (.cons (fits_uuid _ _ _) (.cons (fits_uuid _ _ _) (.cons (fits_uuid _ _ _)
      (.cons (fits_nat (by decide) (by decide)) .nil)))) (by decide)

theorem fits_textOrNull {lib : CursorLibrary} {allowNan : Bool} {text : Option Text} {n : Nat}
    (h : ∀ t, text = some t → t.all isPlain = true ∧ t.length ≤ n) (hn : 2 ≤ n) :
    DumpFits lib allowNan (textOrNull text) (n + 2) := by
  cases text with
  | none =>
      obtain ⟨text, htext, hlength⟩ : DumpFits lib allowNan .null 4 := fits_null
      exact ⟨text, htext, hlength.trans (by omega)⟩
  | some t => exact fits_str (h t rfl).1 (by have := (h t rfl).2; omega)

theorem ActivityCursor.shortEnough (lib : CursorLibrary) (c : ActivityCursor) :
    ShortEnough lib .activity c.document := by
  have after : DumpFits lib false (.obj c.after.document) 171 :=
    fits_obj ["logical_time", "occurred_at", "public_id"] [22, 29, 70] rfl (by decide)
      (.cons (fits_textOrNull c.bounded.logicalTime (by decide))
        (.cons (fits_textOrNull c.bounded.occurredAt (by decide))
          (.cons (fits_str c.bounded.publicId.1 (by have := c.bounded.publicId.2; omega)) .nil)))
      (by decide)
  refine fits_obj ["after", "case", "filter_sha256", "snapshot", "sort", "v"]
    [171, 38, 66, 38, 8, 1] rfl (by decide)
    (.cons after (.cons (fits_uuid _ _ _) (.cons ?_ (.cons (fits_uuid _ _ _)
      (.cons ?_ (.cons ?_ .nil)))))) (by decide)
  · exact fits_str c.filterSha256.plain (by rw [c.filterSha256.length])
  · show DumpFits lib false (.str c.sort.text) 8
    cases c.sort with
    | newest => exact fits_str (by decide) (by decide)
    | oldest => exact fits_str (by decide) (by decide)
  · exact fits_nat (by decide) (by decide)

/-! ## A cursor comes apart again -/

theorem length_hexText (octets : List Octet) : (hexText octets).length = 2 * octets.length := by
  induction octets with
  | nil => rfl
  | cons octet octets ih =>
      have hcons : hexText (octet :: octets) =
          [Nat.digitChar (octet.val / 16), Nat.digitChar (octet.val % 16)] ++ hexText octets := rfl
      rw [hcons, List.length_append, ih, List.length_cons]
      simp only [List.length_cons, List.length_nil]
      omega

theorem isLowerHexDigit_digitChar {n : Nat} (h : n < 16) :
    isLowerHexDigit (Nat.digitChar n) = true := by
  have hall : ∀ d : Fin 16, isLowerHexDigit (Nat.digitChar d) = true := by decide
  exact hall ⟨n, h⟩

theorem hex_hexText (octets : List Octet) : (hexText octets).all isLowerHexDigit = true := by
  refine List.all_eq_true.mpr fun c hc => ?_
  obtain ⟨octet, -, hc⟩ := List.mem_flatMap.mp hc
  have hlt := octet.isLt
  rcases List.mem_cons.mp hc with rfl | hc
  · exact isLowerHexDigit_digitChar (by omega)
  · rw [List.mem_singleton.mp hc]
    exact isLowerHexDigit_digitChar (by omega)

theorem dot_not_mem_alphabet : '.' ∉ urlsafeAlphabet.chars := by decide +kernel

variable {lib : CursorLibrary}

namespace CursorLibrary

theorem signature_length (kind : CursorKind) (raw : List Octet) :
    (lib.signature kind raw).length = 64 := by
  rw [signature, length_hexText, (lib.hmac kind raw).2]

/-- The two sides of a sealed payload. -/
theorem cursorParts_sealed {kind : CursorKind} {raw : List Octet} (hpos : 0 < raw.length)
    (hshort : raw.length ≤ 719) : cursorParts (lib.sealed kind raw) =
      some (encodeUnpadded urlsafeAlphabet raw, lib.signature kind raw) := by
  have hlength := Base64.length_encodeUnpadded urlsafeAlphabet raw
  have hsignature := lib.signature_length kind raw
  have hhex := hex_hexText (lib.hmac kind raw).1
  have hchars : ∀ c ∈ encodeUnpadded urlsafeAlphabet raw, c ≠ '.' := by
    rintro c hc rfl
    exact dot_not_mem_alphabet (Base64.mem_encodeUnpadded hc)
  have hcount : (encodeUnpadded urlsafeAlphabet raw).count '.' = 0 :=
    List.count_eq_zero.mpr fun h => hchars _ h rfl
  have hcount' : (lib.signature kind raw).count '.' = 0 :=
    List.count_eq_zero.mpr fun h => absurd (List.all_eq_true.mp hhex _ h) (by decide)
  have htake : (lib.sealed kind raw).takeWhile (· ≠ '.') = encodeUnpadded urlsafeAlphabet raw := by
    rw [sealed, List.takeWhile_append_of_pos fun c hc => decide_eq_true (hchars c hc)]
    simp
  have hdrop : ((lib.sealed kind raw).dropWhile (· ≠ '.')).drop 1 = lib.signature kind raw := by
    rw [sealed, List.dropWhile_append_of_pos fun c hc => decide_eq_true (hchars c hc)]
    simp
  unfold cursorParts
  rw [if_neg, htake, hdrop]
  · dsimp only
    rw [if_neg]
    rintro (hnil | hlength' | hhex' | hall)
    · rw [hnil] at hlength
      simp only [List.length_nil] at hlength
      omega
    · exact hlength' hsignature
    · exact hhex' hhex
    · refine hall (List.all_eq_true.mpr fun c hc => ?_)
      exact List.contains_iff_mem.mpr (Base64.mem_encodeUnpadded hc)
  · rintro (hnil | hlong | hcount'')
    · exact List.append_ne_nil_of_right_ne_nil _ (List.cons_ne_nil _ _) hnil
    · rw [sealed, List.length_append, List.length_cons, hlength, hsignature] at hlong
      omega
    · rw [sealed, List.count_append, List.count_cons_self, hcount, hcount'] at hcount''
      exact hcount'' rfl

theorem openCursor_sealed {kind : CursorKind} {raw : List Octet} {document : Json}
    (hpos : 0 < raw.length) (hshort : raw.length ≤ 719) (hloads : lib.loads raw = some document) :
    lib.openCursor (lib.sealed kind raw) = some ⟨raw, lib.signature kind raw, document⟩ := by
  unfold openCursor
  rw [cursorParts_sealed hpos hshort]
  simp only [Option.bind_eq_bind, Option.bind_some, Base64.decodeUnpadded_encodeUnpadded, hloads]
  rfl

end CursorLibrary

/-! ## Exact codecs -/

namespace CursorLibrary

/-- `json.loads` reads back what was written of the document. -/
def ReadsBack (lib : CursorLibrary) (kind : CursorKind) (document : CursorDocument) : Prop :=
  ∀ raw, lib.payload kind document = some raw → lib.loads raw = some (.obj document)

/-- The signature of the cursor, where it is valid, is one the service gave:
of a well-formed document. -/
def Unforged (lib : CursorLibrary) (kind : CursorKind) (wellFormed : CursorDocument → Prop)
    (value : Text) : Prop :=
  ∀ opened, lib.openCursor value = some opened →
    opened.signature = lib.signature kind opened.raw →
    ∃ document, wellFormed document ∧ lib.payload kind document = some opened.raw ∧
      lib.ReadsBack kind document

/-- A decoder inverts the encoder, on exactly the encoded documents. -/
structure ExactCodec (lib : CursorLibrary) (kind : CursorKind) (keys : List String)
    (wellFormed : CursorDocument → Prop)
    (decode : Text → Except CursorRaised CursorDocument) : Prop where
  /-- An encoded document is given back. -/
  decodes : ∀ document, wellFormed document → lib.ReadsBack kind document →
    ∃ value, lib.encodeCursor kind document = some value ∧ decode value = .ok document
  /-- A cursor is the encoding of the document it is read as, and of no other keys. -/
  canonical : ∀ value document, decode value = .ok document →
    lib.encodeCursor kind document = some value ∧ hasCursorKeys keys document = true
  /-- The document is one of the service. -/
  genuine : ∀ value document, decode value = .ok document → lib.Unforged kind wellFormed value →
    wellFormed document

/-- What a decoder of any of the kinds has checked of the document it returns. -/
structure Checked (lib : CursorLibrary) (kind : CursorKind) (keys : List String) (value : Text)
    (document : CursorDocument) : Prop where
  opened : ∃ raw, lib.openCursor value =
    some ⟨raw, lib.signature kind raw, .obj document⟩
  encoded : lib.encodeCursor kind document = some value
  keys : hasCursorKeys keys document = true

theorem Checked.genuine {kind : CursorKind} {keys : List String} {value : Text}
    {document : CursorDocument} {wellFormed : CursorDocument → Prop}
    (h : lib.Checked kind keys value document) (unforged : lib.Unforged kind wellFormed value) :
    wellFormed document := by
  obtain ⟨raw, hopened⟩ := h.opened
  obtain ⟨signed, hsigned, hpayload, hreads⟩ := unforged _ hopened rfl
  have hloads : lib.loads raw = some (.obj document) := by
    unfold openCursor at hopened
    obtain ⟨parts, -, hopened⟩ := Option.bind_eq_some_iff.mp hopened
    obtain ⟨octets, -, hopened⟩ := Option.bind_eq_some_iff.mp hopened
    obtain ⟨read, hread, hopened⟩ := Option.bind_eq_some_iff.mp hopened
    obtain ⟨rfl, -, rfl⟩ := OpenedCursor.mk.inj (Option.some.inj hopened)
    exact hread
  rw [hreads raw hpayload] at hloads
  obtain rfl := Json.obj.inj (Option.some.inj hloads)
  exact hsigned

/-- A short document is opened again after it was sealed. -/
theorem openCursor_of_shortEnough {kind : CursorKind} {document : CursorDocument}
    (short : ShortEnough lib kind document) (reads : lib.ReadsBack kind document) :
    ∃ raw, lib.encodeCursor kind document = some (lib.sealed kind raw) ∧
      lib.openCursor (lib.sealed kind raw) =
        some ⟨raw, lib.signature kind raw, .obj document⟩ := by
  obtain ⟨text, htext, hlength⟩ := short
  have hpayload : lib.payload kind document = some (asciiOctets text) := by
    rw [payload, htext, Option.map_some]
  have hpos : 0 < text.length := by
    rw [dumpedText] at htext
    obtain ⟨members, -, rfl⟩ := Option.map_eq_some_iff.mp htext
    exact Nat.succ_pos _
  have hsize : (asciiOctets text).length = text.length := List.length_map _
  refine ⟨asciiOctets text, ?_, openCursor_sealed (hsize ▸ hpos) (hsize ▸ hlength)
    (reads _ hpayload)⟩
  rw [encodeCursor, hpayload, Option.map_some]

/-! ### The signed decoders -/

theorem decodeSigned_eq_ok {kind : CursorKind} {keys : List String} {version : Int}
    {messages : CursorMessages} {value : Text} {document : CursorDocument} :
    lib.decodeSigned kind keys version messages value = .ok document ↔
      lib.Checked kind keys value document ∧
        lib.versionIs version (Json.get document "v") = true := by
  unfold decodeSigned
  constructor
  · intro h
    split at h
    case h_1 => cases h
    case h_2 opened hopened =>
      split at h
      case h_2 => cases h
      case h_1 fields hfields =>
        split at h
        case isTrue => cases h
        case isFalse hshape =>
          split at h
          case isTrue => cases h
          case isFalse hsigned =>
            cases h
            obtain ⟨raw, signature, read⟩ := opened
            obtain rfl : read = .obj document := hfields
            obtain ⟨hsignature, hencoded⟩ := not_or.mp hsigned
            obtain rfl : signature = lib.signature kind raw := not_not.mp hsignature
            obtain ⟨hkeys, hversion⟩ := not_or.mp hshape
            exact ⟨⟨⟨raw, hopened⟩, not_not.mp hencoded, Bool.eq_true_of_not_eq_false hkeys⟩,
              Bool.eq_true_of_not_eq_false hversion⟩
  · rintro ⟨⟨⟨raw, hopened⟩, hencoded, hkeys⟩, hversion⟩
    rw [hopened]
    dsimp only
    rw [hkeys, hversion, if_neg (by decide), if_neg]
    rintro (h | h)
    · exact h rfl
    · exact h hencoded

/-- A decoder that checks the values of a signed document. -/
theorem exactCodec_signed {kind : CursorKind} {keys : List String} (version : Int)
    (messages : CursorMessages) (values : CursorDocument → Prop)
    {wellFormed : CursorDocument → Prop} {decode : Text → Except CursorRaised CursorDocument}
    (hdecode : ∀ value document, decode value = .ok document ↔
      lib.decodeSigned kind keys version messages value = .ok document ∧ values document)
    (hshort : ∀ document, wellFormed document → ShortEnough lib kind document)
    (hkeys : ∀ document, wellFormed document → hasCursorKeys keys document = true)
    (hversion : ∀ document, wellFormed document →
      lib.versionIs version (Json.get document "v") = true)
    (hvalues : ∀ document, wellFormed document → values document) :
    lib.ExactCodec kind keys wellFormed decode where
  decodes document h reads := by
    obtain ⟨raw, hencoded, hopened⟩ := openCursor_of_shortEnough (hshort document h) reads
    exact ⟨_, hencoded, (hdecode _ _).mpr ⟨decodeSigned_eq_ok.mpr
      ⟨⟨⟨raw, hopened⟩, hencoded, hkeys document h⟩, hversion document h⟩, hvalues document h⟩⟩
  canonical value document h := by
    have hchecked := (decodeSigned_eq_ok.mp ((hdecode _ _).mp h).1).1
    exact ⟨hchecked.encoded, hchecked.keys⟩
  genuine value document h unforged :=
    (decodeSigned_eq_ok.mp ((hdecode _ _).mp h).1).1.genuine unforged

end CursorLibrary

/-! ### The four codecs -/

/-- A document the service signs. -/
def IsCaseCatalogCursor (document : CursorDocument) : Prop :=
  ∃ c : CaseCatalogCursor, document = c.document

def IsCheckpointHistoryCursor (document : CursorDocument) : Prop :=
  ∃ c : CheckpointHistoryCursor, document = c.document

def IsBackfillOutcomeHistoryCursor (document : CursorDocument) : Prop :=
  ∃ c : BackfillOutcomeHistoryCursor, document = c.document

def IsActivityCursor (document : CursorDocument) : Prop :=
  ∃ c : ActivityCursor, document = c.document

theorem isDigestValue_text (d : HexDigest) : isDigestValue (.str d.text) = true := by
  simp only [isDigestValue, d.length, d.hex, decide_true, Bool.and_self]

theorem isCheckpointId_checkpointId (d : HexDigest) :
    isCheckpointId (.str (checkpointId d)) = true := by
  have hlength : (checkpointId d).length = 68 := by
    rw [checkpointId, List.length_append, d.length]
    rfl
  simp only [isCheckpointId, hlength, decide_true, Bool.true_and, Bool.and_eq_true,
    decide_eq_true_eq]
  exact ⟨rfl, d.hex⟩

theorem caseCatalog_exact (lib : CursorLibrary) :
    lib.ExactCodec .caseCatalog caseCatalogKeys IsCaseCatalogCursor
      lib.decodeCaseCatalogCursor := by
  refine CursorLibrary.exactCodec_signed 3 caseCatalogMessages
    (fun document => isDigestValue (Json.get document "scope") = true ∧
      isCatalogState (Json.get document "state") = .ok true ∧
      isDigestValue (Json.get document "filters") = true ∧
      isPosition (Json.get document "cutoff") (Json.get document "after") = true)
    (fun value document => ?_) ?_ ?_ ?_ ?_
  · unfold CursorLibrary.decodeCaseCatalogCursor
    constructor
    · intro h
      obtain ⟨read, hread, h⟩ := bind_eq_ok.mp h
      split at h
      case isTrue => cases h
      case isFalse hscope =>
        obtain ⟨known, hknown, h⟩ := bind_eq_ok.mp h
        split at h
        case isFalse => cases h
        case isTrue hvalues =>
          cases h
          simp only [Bool.and_eq_true] at hvalues
          obtain ⟨⟨rfl, hfilters⟩, hposition⟩ := hvalues
          exact ⟨hread, Bool.eq_true_of_not_eq_false hscope, hknown, hfilters, hposition⟩
    · rintro ⟨hread, hscope, hknown, hfilters, hposition⟩
      refine bind_eq_ok.mpr ⟨document, hread, ?_⟩
      dsimp only
      rw [hscope, if_neg (by decide)]
      refine bind_eq_ok.mpr ⟨true, hknown, ?_⟩
      rw [hfilters, hposition]
      rfl
  · rintro _ ⟨c, rfl⟩
    exact c.shortEnough lib
  · rintro _ ⟨c, rfl⟩
    rfl
  · rintro _ ⟨c, rfl⟩
    rfl
  · rintro _ ⟨c, rfl⟩
    refine ⟨isDigestValue_text c.scope, ?_, isDigestValue_text c.filters, ?_⟩
    · show isCatalogState (.str _) = .ok true
      cases c.archived <;> rfl
    · show isPosition (.int _) (.int _) = true
      have := c.cutoff.pos
      have := c.after.pos
      have := c.within
      simp only [isPosition, Bool.and_eq_true, decide_eq_true_eq]
      omega

/-- The identifiers of a history cursor. -/
def hasIdentifiers (ofCase ofPosition : Json → Bool) (document : CursorDocument) : Prop :=
  (ofCase (Json.get document "case") && ofPosition (Json.get document "cutoff") &&
    ofPosition (Json.get document "after")) = true

/-- The two history decoders end alike. -/
theorem decode_identifiers {signed : Except CursorRaised CursorDocument} {message : String}
    {holds : CursorDocument → Bool} {document : CursorDocument} :
    (signed >>= fun document => if holds document = true then pure document
      else throw (.invalidCursor message)) = .ok document ↔
      signed = .ok document ∧ holds document = true := by
  constructor
  · intro h
    obtain ⟨read, hread, h⟩ := bind_eq_ok.mp h
    split at h
    case isTrue hholds =>
      cases h
      exact ⟨hread, hholds⟩
    case isFalse => cases h
  · rintro ⟨hread, hholds⟩
    refine bind_eq_ok.mpr ⟨document, hread, ?_⟩
    rw [if_pos hholds]
    rfl

theorem checkpointHistory_exact (lib : CursorLibrary) :
    lib.ExactCodec .checkpointHistory historyKeys IsCheckpointHistoryCursor
      lib.decodeCheckpointHistoryCursor := by
  refine CursorLibrary.exactCodec_signed 1 checkpointHistoryMessages
    (hasIdentifiers hasIdLength isCheckpointId) (fun value document => decode_identifiers)
    ?_ ?_ ?_ ?_
  · rintro _ ⟨c, rfl⟩
    exact c.shortEnough lib
  · rintro _ ⟨c, rfl⟩
    rfl
  · rintro _ ⟨c, rfl⟩
    rfl
  · rintro _ ⟨c, rfl⟩
    show (hasIdLength (.str _) && isCheckpointId (.str _) && isCheckpointId (.str _)) = true
    rw [isCheckpointId_checkpointId, isCheckpointId_checkpointId, hasIdLength,
      c.casePublicId.length]
    rfl

theorem backfillOutcomeHistory_exact (lib : CursorLibrary) :
    lib.ExactCodec .backfillOutcomeHistory historyKeys IsBackfillOutcomeHistoryCursor
      lib.decodeBackfillOutcomeHistoryCursor := by
  refine CursorLibrary.exactCodec_signed 1 backfillOutcomeHistoryMessages
    (hasIdentifiers isCanonicalUuid isCanonicalUuid) (fun value document => decode_identifiers)
    ?_ ?_ ?_ ?_
  · rintro _ ⟨c, rfl⟩
    exact c.shortEnough lib
  · rintro _ ⟨c, rfl⟩
    rfl
  · rintro _ ⟨c, rfl⟩
    rfl
  · rintro _ ⟨c, rfl⟩
    show (isCanonicalUuid (.str _) && isCanonicalUuid (.str _) && isCanonicalUuid (.str _)) = true
    rw [c.casePublicId.canonical, c.cutoff.canonical, c.after.canonical]
    rfl

theorem decodeActivityCursor_eq_ok {lib : CursorLibrary} {value : Text}
    {document : CursorDocument} :
    lib.decodeActivityCursor value = .ok document ↔
      lib.Checked .activity activityKeys value document ∧
        lib.versionIs 1 (Json.get document "v") = true ∧
        ∃ snapshot, Json.get document "snapshot" = .str snapshot := by
  unfold CursorLibrary.decodeActivityCursor
  constructor
  · intro h
    split at h
    case h_1 => cases h
    case h_2 opened hopened =>
      split at h
      case h_2 => cases h
      case h_1 fields hfields =>
        split at h
        case isTrue => cases h
        case isFalse hversion =>
          split at h
          case isTrue => cases h
          case isFalse hsignature =>
            split at h
            case h_1 => cases h
            case h_2 encoded hencoded =>
              split at h
              case isTrue => cases h
              case isFalse hvalue =>
                split at h
                case isTrue => cases h
                case isFalse hkeys =>
                  split at h
                  case h_2 => cases h
                  case h_1 snapshot hsnapshot =>
                    cases h
                    obtain ⟨raw, signature, read⟩ := opened
                    obtain rfl : read = .obj document := hfields
                    obtain rfl : signature = lib.signature .activity raw := not_not.mp hsignature
                    obtain rfl := not_not.mp hvalue
                    exact ⟨⟨⟨raw, hopened⟩, hencoded, Bool.eq_true_of_not_eq_false hkeys⟩,
                      Bool.eq_true_of_not_eq_false hversion, snapshot, hsnapshot⟩
  · rintro ⟨⟨⟨raw, hopened⟩, hencoded, hkeys⟩, hversion, snapshot, hsnapshot⟩
    rw [hopened]
    dsimp only
    rw [hversion, if_neg (by decide), if_neg (not_not.mpr rfl), hencoded]
    dsimp only
    rw [if_neg (not_not.mpr rfl), hkeys, if_neg (by decide), hsnapshot]

theorem activity_exact (lib : CursorLibrary) :
    lib.ExactCodec .activity activityKeys IsActivityCursor lib.decodeActivityCursor where
  decodes := by
    rintro _ ⟨c, rfl⟩ reads
    obtain ⟨raw, hencoded, hopened⟩ :=
      CursorLibrary.openCursor_of_shortEnough (c.shortEnough lib) reads
    exact ⟨_, hencoded,
      decodeActivityCursor_eq_ok.mpr ⟨⟨⟨raw, hopened⟩, hencoded, rfl⟩, rfl, _, rfl⟩⟩
  canonical value document h := by
    have hchecked := (decodeActivityCursor_eq_ok.mp h).1
    exact ⟨hchecked.encoded, hchecked.keys⟩
  genuine value document h unforged := (decodeActivityCursor_eq_ok.mp h).1.genuine unforged

/-- Each of the four decoders gives back the document that was encoded, and
accepts a cursor only where it is the encoding of the document it returns. -/
theorem cursor_codecs_exact (lib : CursorLibrary) :
    lib.ExactCodec .caseCatalog caseCatalogKeys IsCaseCatalogCursor lib.decodeCaseCatalogCursor ∧
      lib.ExactCodec .checkpointHistory historyKeys IsCheckpointHistoryCursor
        lib.decodeCheckpointHistoryCursor ∧
      lib.ExactCodec .backfillOutcomeHistory historyKeys IsBackfillOutcomeHistoryCursor
        lib.decodeBackfillOutcomeHistoryCursor ∧
      lib.ExactCodec .activity activityKeys IsActivityCursor lib.decodeActivityCursor :=
  ⟨caseCatalog_exact lib, checkpointHistory_exact lib, backfillOutcomeHistory_exact lib,
    activity_exact lib⟩

def sampleHistoryUuid : CanonicalUuid :=
  ⟨"0f8fad5b-d9cb-469f-a165-70867728950e".toList, by decide⟩

def sampleOutcomeCursor : BackfillOutcomeHistoryCursor :=
  ⟨sampleHistoryUuid, sampleHistoryUuid, sampleHistoryUuid⟩

/-- What `json.dumps` writes of the sample. -/
def sampleCursorText : Text :=
  ("\x7b\"after\":\"0f8fad5b-d9cb-469f-a165-70867728950e\"," ++
    "\"case\":\"0f8fad5b-d9cb-469f-a165-70867728950e\"," ++
    "\"cutoff\":\"0f8fad5b-d9cb-469f-a165-70867728950e\",\"v\":1\x7d").toList

def sampleCursorLibrary : CursorLibrary where
  loads raw :=
    if raw = asciiOctets sampleCursorText then some (.obj sampleOutcomeCursor.document) else none
  hmac _ _ := ⟨List.replicate 32 0, by decide⟩
  floatText _ _ := none
  floatIs _ _ := false

theorem payload_sampleOutcomeCursor :
    sampleCursorLibrary.payload .backfillOutcomeHistory sampleOutcomeCursor.document =
      some (asciiOctets sampleCursorText) := by
  have hmembers : dumpedMembers sampleCursorLibrary true sampleOutcomeCursor.document = some
      [("after", jsonString sampleHistoryUuid.text), ("case", jsonString sampleHistoryUuid.text),
        ("cutoff", jsonString sampleHistoryUuid.text), ("v", ['1'])] := by
    simp only [sampleOutcomeCursor, BackfillOutcomeHistoryCursor.document, dumpedMembers,
      dumpedText,
      Option.bind_some, Option.map_some]
    rfl
  unfold CursorLibrary.payload
  rw [dumpedText, show decide (CursorKind.backfillOutcomeHistory ≠ .activity) = true from rfl,
    hmembers, Option.map_some, sortedMembers_eq (by decide), Option.map_some]
  decide +kernel

theorem cursor_codecs_exact_sample : ∃ value,
    sampleCursorLibrary.encodeCursor .backfillOutcomeHistory sampleOutcomeCursor.document =
      some value ∧
    sampleCursorLibrary.decodeBackfillOutcomeHistoryCursor value =
      .ok sampleOutcomeCursor.document := by
  refine (cursor_codecs_exact sampleCursorLibrary).2.2.1.decodes _ ⟨sampleOutcomeCursor, rfl⟩ ?_
  intro raw hraw
  rw [payload_sampleOutcomeCursor] at hraw
  rw [← Option.some.inj hraw]
  simp only [sampleCursorLibrary, ↓reduceIte]

end TonTracker
