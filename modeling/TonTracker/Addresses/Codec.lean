/-
# `Addresses.Codec` — what the address parser accepts

A friendly address that is accepted is the encoding of the identity returned,
and one character of another value makes the checksum wrong; a raw one is
accepted in any case of its digits, and the canonical address is the one
spelling of it the client accepts (`ton_address_codec`).
-/
import TonTracker.Services.TonAddressIdentity
import TonTracker.Acquisition.TransactionHistory
import Mathlib.Tactic.IntervalCases
import Mathlib.Data.List.TakeDrop

namespace TonTracker

open Base64 (Octet Sextet Alphabet encodeValues)
open FixedDigits (isDigit)

variable {c : Char} {text value digits account : Text} {found : TonAddressIdentity}

/-! ## Characters -/

theorem toNat_of_isDigit (h : isDigit c = true) : 48 ≤ c.toNat ∧ c.toNat ≤ 57 := by
  simp only [isDigit, Bool.and_eq_true, decide_eq_true_eq, Char.le_def,
    UInt32.le_iff_toNat_le] at h
  exact h

theorem digitChar_of_isDigit (h : isDigit c = true) :
    c.toNat - '0'.toNat < 10 ∧ Nat.digitChar (c.toNat - '0'.toNat) = c := by
  obtain ⟨hlo, hhi⟩ := toNat_of_isDigit h
  have hzero : '0'.toNat = 48 := rfl
  refine ⟨by omega, ?_⟩
  have hc : c = Char.ofNat c.toNat := (Char.ofNat_toNat c).symm
  rw [hzero]
  generalize c.toNat = n at *
  subst hc
  interval_cases n <;> rfl

/-- The hexadecimal digits. -/
theorem mem_of_isHexDigit (h : isHexDigit c = true) : c ∈ "0123456789abcdefABCDEF".toList := by
  have hrange : (48 ≤ c.toNat ∧ c.toNat ≤ 57) ∨ (97 ≤ c.toNat ∧ c.toNat ≤ 102) ∨
      (65 ≤ c.toNat ∧ c.toNat ≤ 70) := by
    simp only [isHexDigit, Bool.or_eq_true, Bool.and_eq_true, decide_eq_true_eq, Char.le_def,
      UInt32.le_iff_toNat_le] at h
    obtain (h | h) | h := h
    · exact .inl (toNat_of_isDigit h)
    · exact .inr (.inl h)
    · exact .inr (.inr h)
  have hc : c = Char.ofNat c.toNat := (Char.ofNat_toNat c).symm
  generalize c.toNat = n at *
  subst hc
  obtain ⟨hlo, hhi⟩ | ⟨hlo, hhi⟩ | ⟨hlo, hhi⟩ := hrange <;> interval_cases n <;> decide

theorem isLowerHexDigit_toLower (h : isHexDigit c = true) : isLowerHexDigit c.toLower = true := by
  have hall : ("0123456789abcdefABCDEF".toList.all fun c => isLowerHexDigit c.toLower) = true := by
    decide
  exact List.all_eq_true.mp hall c (mem_of_isHexDigit h)

theorem isHexDigit_of_isLowerHexDigit (h : isLowerHexDigit c = true) : isHexDigit c = true := by
  unfold isHexDigit
  exact Bool.or_eq_true_iff.mpr (.inl h)

theorem toLower_of_isLowerHexDigit (h : isLowerHexDigit c = true) : c.toLower = c := by
  have hall : ("0123456789abcdefABCDEF".toList.all fun c =>
      !isLowerHexDigit c || c.toLower == c) = true := by
    decide
  have hc := List.all_eq_true.mp hall c (mem_of_isHexDigit (isHexDigit_of_isLowerHexDigit h))
  rw [h, Bool.not_true, Bool.false_or] at hc
  exact eq_of_beq hc

/-- A text without spaces is stripped. -/
theorem strip_of_forall (h : ∀ c ∈ text, isSpace c = false) : strip text = text := by
  have hdrop : ∀ text : Text, (∀ c ∈ text, isSpace c = false) → text.dropWhile isSpace = text := by
    intro text h
    cases text with
    | nil => rfl
    | cons c text => exact List.dropWhile_cons_of_neg (by simp [h c List.mem_cons_self])
  unfold strip
  rw [hdrop text h, hdrop text.reverse fun c hc => h c (List.mem_reverse.mp hc),
    List.reverse_reverse]

/-! ## Numbers -/

theorem decimalValue_concat (digits : Text) (c : Char) :
    decimalValue (digits ++ [c]) = 10 * decimalValue digits + (c.toNat - '0'.toNat) :=
  List.foldl_concat ..

theorem decimalValue_eq (digits : Text) : decimalValue digits = Nat.ofDigitChars 10 digits 0 := by
  rw [Nat.ofDigitChars_eq_foldl]
  rfl

theorem isDigit_eq (c : Char) : isDigit c = c.isDigit := by
  unfold isDigit Char.isDigit
  simp [Char.le_def]

theorem decimalValue_toDigits (n : Nat) : decimalValue (Nat.toDigits 10 n) = n := by
  rw [decimalValue_eq, Nat.ofDigitChars_ten_toDigits]

/-- A positive number is read back as it is written. -/
theorem toDigits_decimalValue (h : isPositiveDecimal digits = true) :
    Nat.toDigits 10 (decimalValue digits) = digits ∧ 0 < decimalValue digits := by
  induction digits using List.reverseRecOn with
  | nil => cases h
  | append_singleton digits c ih =>
      have hdigit : isDigit c = true := by
        unfold isPositiveDecimal at h
        cases digits <;> simp_all
      obtain ⟨hlt, hchar⟩ := digitChar_of_isDigit hdigit
      rw [decimalValue_concat]
      cases digits with
      | nil =>
          have hne : c ≠ '0' := by
            unfold isPositiveDecimal at h
            simp_all
          have hzero : c.toNat - '0'.toNat ≠ 0 := by
            intro hzero
            rw [hzero] at hchar
            exact hne hchar.symm
          have hnil : decimalValue [] = 0 := rfl
          rw [hnil, Nat.mul_zero, Nat.zero_add, Nat.toDigits_of_lt_base hlt, hchar]
          exact ⟨rfl, Nat.pos_of_ne_zero hzero⟩
      | cons first digits =>
          have hpositive : isPositiveDecimal (first :: digits) = true := by
            unfold isPositiveDecimal at h ⊢
            simp_all
          obtain ⟨hdigits, hpos⟩ := ih hpositive
          refine ⟨?_, by omega⟩
          rw [← Nat.toDigits_append_toDigits (by decide) hpos hlt, hdigits,
            Nat.toDigits_of_lt_base hlt, hchar]

theorem head_toDigits (n : Nat) (h : 0 < n) :
    ∃ first rest, Nat.toDigits 10 n = first :: rest ∧ first ≠ '0' := by
  induction n using Nat.strongRecOn with
  | ind n ih =>
      by_cases hlt : n < 10
      · refine ⟨_, [], Nat.toDigits_of_lt_base hlt, ?_⟩
        rw [Ne, Nat.digitChar_eq_zero]
        omega
      · obtain ⟨first, rest, hdigits, hne⟩ := ih (n / 10) (by omega) (by omega)
        refine ⟨first, rest ++ [Nat.digitChar (n % 10)], ?_, hne⟩
        rw [Nat.toDigits_of_base_le (by decide) (by omega), hdigits]
        rfl

theorem isPositiveDecimal_toDigits {n : Nat} (h : 0 < n) :
    isPositiveDecimal (Nat.toDigits 10 n) = true := by
  have hall : (Nat.toDigits 10 n).all isDigit = true := List.all_eq_true.mpr fun c hc => by
    rw [isDigit_eq]
    exact Nat.isDigit_of_mem_toDigits (by decide) (by decide) hc
  obtain ⟨first, rest, hdigits, hne⟩ := head_toDigits n h
  rw [hdigits] at hall ⊢
  exact Bool.and_eq_true_iff.mpr ⟨bne_iff_ne.mpr hne, hall⟩

/-- A workchain text does not start with a sign and a digit at once. -/
theorem isWorkchainText_of_isPositiveDecimal (h : isPositiveDecimal digits = true) :
    isWorkchainText digits = true ∧ workchainValue digits = decimalValue digits := by
  cases digits with
  | nil => cases h
  | cons c digits =>
      have hne : c ≠ '-' := by
        rintro rfl
        unfold isPositiveDecimal at h
        simp [isDigit] at h
      unfold isWorkchainText workchainValue
      split
      · next heq => exact absurd (List.cons.inj heq).1 hne
      · exact ⟨Bool.or_eq_true_iff.mpr (.inr h), rfl⟩

/-- A workchain is read back as it is written. -/
theorem intText_workchainValue (h : isWorkchainText text = true) :
    intText (workchainValue text) = text := by
  unfold isWorkchainText at h
  unfold workchainValue
  split at h
  · next digits =>
      obtain ⟨hdigits, hpos⟩ := toDigits_decimalValue h
      obtain ⟨n, hn⟩ := Nat.exists_eq_succ_of_ne_zero (Nat.pos_iff_ne_zero.mp hpos)
      rw [hn] at hdigits ⊢
      exact congrArg (List.cons '-') hdigits
  · obtain h | h := Bool.or_eq_true_iff.mp h
    · rw [eq_of_beq h]
      rfl
    · exact (toDigits_decimalValue h).1

theorem workchainValue_intText (workchain : Int) :
    isWorkchainText (intText workchain) = true ∧
      workchainValue (intText workchain) = workchain := by
  cases workchain with
  | ofNat n =>
      by_cases hn : n = 0
      · subst hn
        exact ⟨rfl, rfl⟩
      · obtain ⟨htext, hvalue⟩ :=
          isWorkchainText_of_isPositiveDecimal (isPositiveDecimal_toDigits (Nat.pos_of_ne_zero hn))
        refine ⟨htext, hvalue.trans ?_⟩
        rw [decimalValue_toDigits]
        rfl
  | negSucc n =>
      refine ⟨isPositiveDecimal_toDigits (Nat.succ_pos n), ?_⟩
      show -((decimalValue (Nat.toDigits 10 (n + 1)) : Nat) : Int) = Int.negSucc n
      rw [decimalValue_toDigits]
      rfl

theorem of_mem_workchainText (h : isWorkchainText text = true) (hc : c ∈ text) :
    c = '-' ∨ isDigit c = true := by
  have hdigits : ∀ {digits : Text}, isPositiveDecimal digits = true → c ∈ digits →
      isDigit c = true := by
    intro digits h hc
    unfold isPositiveDecimal at h
    cases digits with
    | nil => cases h
    | cons first digits => exact List.all_eq_true.mp (Bool.and_eq_true_iff.mp h).2 c hc
  unfold isWorkchainText at h
  split at h
  · obtain rfl | hc := List.mem_cons.mp hc
    · exact .inl rfl
    · exact .inr (hdigits h hc)
  · obtain h | h := Bool.or_eq_true_iff.mp h
    · rw [eq_of_beq h, List.mem_singleton] at hc
      subst hc
      exact .inr rfl
    · exact .inr (hdigits h hc)

/-! ## Raw addresses -/

theorem span_colon {workchain : Text} (h : ∀ c ∈ workchain, c ≠ ':') (account : Text) :
    (workchain ++ ':' :: account).span (· != ':') = (workchain, ':' :: account) := by
  rw [List.span_eq_takeWhile_dropWhile, List.takeWhile_append_of_pos, List.dropWhile_append_of_pos]
  · simp
  · exact fun c hc => bne_iff_ne.mpr (h c hc)
  · exact fun c hc => bne_iff_ne.mpr (h c hc)

theorem ne_colon_of_workchainText {workchain : Text} (h : isWorkchainText workchain = true) :
    ∀ c ∈ workchain, c ≠ ':' := by
  rintro c hc rfl
  obtain h | h := of_mem_workchainText h hc
  · cases h
  · cases h

theorem eq_of_span {c : Char} {workchain account : Text}
    (h : value.span (· != ':') = (workchain, c :: account)) :
    value = workchain ++ ':' :: account := by
  rw [List.span_eq_takeWhile_dropWhile] at h
  obtain ⟨rfl, hdrop⟩ := Prod.mk.inj h
  have hcolon : (c != ':') = false := by
    have := List.head?_dropWhile_not (· != ':') value
    rw [hdrop] at this
    simpa using this
  have happend := List.takeWhile_append_dropWhile (p := (· != ':')) (l := value)
  rw [hdrop, of_decide_eq_true (by simpa using hcolon : decide (c = ':') = true)] at happend
  exact happend.symm

theorem parseRaw_eq_some : parseRaw value = some found ↔
    ∃ workchain account, value = workchain ++ ':' :: account ∧ isWorkchainText workchain = true ∧
      isHex256 account = true ∧ minWorkchain ≤ workchainValue workchain ∧
      workchainValue workchain ≤ maxWorkchain ∧
      found = rawIdentity (workchainValue workchain) (lower account) := by
  constructor
  · intro h
    unfold parseRaw at h
    split at h
    · next workchain c account hspan =>
        split at h
        · next hparts =>
            obtain ⟨hworkchain, haccount⟩ := Bool.and_eq_true_iff.mp hparts
            dsimp only at h
            split at h
            · next hrange =>
                exact ⟨workchain, account, eq_of_span hspan, hworkchain, haccount, hrange.1,
                  hrange.2, (Option.some.inj h).symm⟩
            · cases h
        · cases h
    · cases h
  · rintro ⟨workchain, account, rfl, hworkchain, haccount, hmin, hmax, rfl⟩
    unfold parseRaw
    rw [span_colon (ne_colon_of_workchainText hworkchain)]
    dsimp only
    rw [hworkchain, haccount]
    have hrange : minWorkchain ≤ workchainValue workchain ∧
        workchainValue workchain ≤ maxWorkchain := ⟨hmin, hmax⟩
    exact if_pos hrange

/-! ## Friendly addresses -/

/-- An account in the workchains a friendly address can name. -/
structure FriendlyAddress where
  bounceable : Bool
  testnetOnly : Bool
  workchain : Int
  account : List Octet
  workchain_ge : -128 ≤ workchain
  workchain_le : workchain ≤ 127
  length_account : account.length = 32

def addressAlphabet (urlsafe : Bool) : Alphabet :=
  if urlsafe then urlsafeAlphabet else standardAlphabet

/-- The tag octet. -/
def addressTag (bounceable testnetOnly : Bool) : Octet :=
  (if bounceable then 0x11 else 0x51) + if testnetOnly then 0x80 else 0

def workchainOctet (workchain : Int) : Octet := ⟨(workchain % 256).toNat, by omega⟩

namespace FriendlyAddress

def payload (address : FriendlyAddress) : List Octet :=
  addressTag address.bounceable address.testnetOnly :: workchainOctet address.workchain ::
    address.account

def octets (address : FriendlyAddress) : List Octet :=
  address.payload ++ bigEndian (crc16Ccitt address.payload)

def encode (urlsafe : Bool) (address : FriendlyAddress) : Text :=
  Base64.encode (addressAlphabet urlsafe) address.octets

def identity (address : FriendlyAddress) : TonAddressIdentity where
  status := .networkScoped
  version := .std
  network := if address.testnetOnly then .testnet else .mainnet
  canonicalAddress := some (canonicalAddress address.workchain (hexText address.account))
  workchainId := some address.workchain
  accountIdHex := some (hexText address.account)
  submittedFormat := .userFriendly
  bounceable := some address.bounceable
  testnetOnly := some address.testnetOnly

theorem length_payload (address : FriendlyAddress) : address.payload.length = 34 := by
  unfold payload
  rw [List.length_cons, List.length_cons, address.length_account]

theorem length_octets (address : FriendlyAddress) : address.octets.length = 36 := by
  unfold octets
  rw [List.length_append, length_payload]
  rfl

end FriendlyAddress

variable {urlsafe : Bool} {octets : List Octet} {address : FriendlyAddress} {v : Sextet}

/-- Below the last two values, the alphabets agree. -/
theorem char_eq_of_mem (h : urlsafeAlphabet.char v ∈ standardAlphabet.chars) :
    urlsafeAlphabet.char v = standardAlphabet.char v := by
  have hall : ∀ v : Sextet, urlsafeAlphabet.char v = standardAlphabet.char v ∨
      urlsafeAlphabet.char v = '-' ∨ urlsafeAlphabet.char v = '_' := by
    decide +kernel
  obtain heq | heq | heq := hall v
  · exact heq
  · rw [heq] at h
    exact absurd h (by decide +kernel)
  · rw [heq] at h
    exact absurd h (by decide +kernel)

theorem length_encode {alphabet : Alphabet} (h : octets.length = 36) :
    (Base64.encode alphabet octets).length = 48 := by
  have hlength : 3 * (encodeValues octets).length = 4 * octets.length :=
    Base64.length_encodeValues ⟨12, h⟩
  unfold Base64.encode
  rw [List.length_map]
  omega

theorem all_contains_encode (alphabet : Alphabet) (octets : List Octet) :
    (Base64.encode alphabet octets).all (alphabet.chars.contains ·) = true := by
  rw [List.all_eq_true]
  intro c hc
  obtain ⟨v, -, rfl⟩ := List.mem_map.mp hc
  exact List.contains_iff_mem.mpr (alphabet.char_mem v)

theorem filter_decode_eq_some {alphabet : Alphabet} :
    (Base64.decode alphabet value).filter (·.length = 36) = some octets ↔
      octets.length = 36 ∧ value = Base64.encode alphabet octets := by
  rw [Option.filter_eq_some_iff, Base64.decode_eq_some, decide_eq_true_eq]
  constructor
  · rintro ⟨⟨-, h⟩, hlength⟩
    exact ⟨hlength, h⟩
  · rintro ⟨hlength, h⟩
    exact ⟨⟨⟨12, hlength⟩, h⟩, hlength⟩

theorem decodeUserFriendly_eq_some : decodeUserFriendly value = some octets ↔
    octets.length = 36 ∧ ∃ urlsafe, value = Base64.encode (addressAlphabet urlsafe) octets := by
  unfold decodeUserFriendly
  constructor
  · intro h
    split at h
    · cases h
    · split at h
      · obtain ⟨hlength, hvalue⟩ := filter_decode_eq_some.mp h
        exact ⟨hlength, false, hvalue⟩
      · split at h
        · obtain ⟨hlength, hvalue⟩ := filter_decode_eq_some.mp h
          exact ⟨hlength, true, hvalue⟩
        · cases h
  · rintro ⟨hlength, urlsafe, rfl⟩
    rw [if_neg (not_not.mpr (length_encode hlength))]
    cases urlsafe with
    | false =>
        have halphabet : addressAlphabet false = standardAlphabet := rfl
        rw [halphabet, if_pos (all_contains_encode standardAlphabet octets)]
        exact filter_decode_eq_some.mpr ⟨hlength, rfl⟩
    | true =>
        have halphabet : addressAlphabet true = urlsafeAlphabet := rfl
        rw [halphabet]
        split
        · next hall =>
            refine filter_decode_eq_some.mpr ⟨hlength, ?_⟩
            refine List.map_congr_left fun v hv => char_eq_of_mem ?_
            rw [List.all_eq_true] at hall
            exact List.contains_iff_mem.mp (hall _ (List.mem_map_of_mem hv))
        · rw [if_pos (all_contains_encode urlsafeAlphabet octets)]
          exact filter_decode_eq_some.mpr ⟨hlength, rfl⟩

/-! ## Tags and workchains -/

theorem exists_addressTag (tag : Octet) (h : tag.val &&& 0x3F = 0x11) :
    ∃ bounceable testnetOnly, tag = addressTag bounceable testnetOnly := by
  have hall : ∀ tag : Octet, tag.val &&& 0x3F = 0x11 →
      ∃ bounceable testnetOnly, tag = addressTag bounceable testnetOnly := by
    decide +kernel
  exact hall tag h

theorem addressTag_spec : ∀ bounceable testnetOnly,
    (addressTag bounceable testnetOnly).val &&& 0x3F = 0x11 ∧
      decide ((addressTag bounceable testnetOnly).val &&& 0x80 ≠ 0) = testnetOnly ∧
      decide ((addressTag bounceable testnetOnly).val &&& 0x40 = 0) = bounceable := by
  decide

theorem signedOctet_workchainOctet {workchain : Int} (hge : -128 ≤ workchain)
    (hle : workchain ≤ 127) : signedOctet (workchainOctet workchain) = workchain := by
  unfold signedOctet workchainOctet
  dsimp only
  split <;> omega

theorem workchainOctet_signedOctet (octet : Octet) :
    workchainOctet (signedOctet octet) = octet ∧ -128 ≤ signedOctet octet ∧
      signedOctet octet ≤ 127 := by
  unfold signedOctet workchainOctet
  refine ⟨Fin.ext ?_, ?_, ?_⟩
  · dsimp only
    split <;> omega
  · split <;> omega
  · split <;> omega

/-- The parser returns the identity of an address. -/
theorem friendlyIdentity_eq (address : FriendlyAddress) :
    friendlyIdentity (addressTag address.bounceable address.testnetOnly)
      (workchainOctet address.workchain) address.account = address.identity := by
  obtain ⟨-, htestnet, hbounceable⟩ := addressTag_spec address.bounceable address.testnetOnly
  unfold friendlyIdentity FriendlyAddress.identity
  rw [htestnet, hbounceable,
    signedOctet_workchainOctet address.workchain_ge address.workchain_le]

theorem parseUserFriendly_eq_some : parseUserFriendly value = some found ↔
    ∃ urlsafe address, value = FriendlyAddress.encode urlsafe address ∧
      found = address.identity := by
  constructor
  · intro h
    unfold parseUserFriendly at h
    split at h
    · cases h
    · next octets hoctets =>
        obtain ⟨hlength, urlsafe, rfl⟩ := decodeUserFriendly_eq_some.mp hoctets
        dsimp only at h
        split at h
        · cases h
        · next hchecksum =>
            split at h
            · next tag workchain account hpayload =>
                split at h
                · cases h
                · next htag =>
                    obtain ⟨bounceable, testnetOnly, rfl⟩ := exists_addressTag tag (not_not.mp htag)
                    obtain ⟨hworkchain, hge, hle⟩ := workchainOctet_signedOctet workchain
                    have hpayloadLength := congrArg List.length hpayload
                    rw [List.length_take, hlength, List.length_cons, List.length_cons]
                      at hpayloadLength
                    refine ⟨urlsafe, ⟨bounceable, testnetOnly, signedOctet workchain, account, hge,
                      hle, by omega⟩, ?_, ?_⟩
                    · unfold FriendlyAddress.encode FriendlyAddress.octets FriendlyAddress.payload
                      dsimp only
                      rw [hworkchain, ← hpayload, ← not_not.mp hchecksum, List.take_append_drop]
                    · rw [← Option.some.inj h, ← friendlyIdentity_eq, hworkchain]
            · cases h
  · rintro ⟨urlsafe, address, rfl, rfl⟩
    have hdecode : decodeUserFriendly (address.encode urlsafe) = some address.octets :=
      decodeUserFriendly_eq_some.mpr ⟨address.length_octets, urlsafe, rfl⟩
    have hpayload : address.octets.take 34 = address.payload :=
      List.take_left' address.length_payload
    have hchecksum : address.octets.drop 34 = bigEndian (crc16Ccitt address.payload) :=
      List.drop_left' address.length_payload
    unfold parseUserFriendly
    rw [hdecode]
    dsimp only
    rw [hpayload, hchecksum, if_neg (not_not.mpr rfl)]
    unfold FriendlyAddress.payload
    dsimp only
    rw [if_neg (not_not.mpr (addressTag_spec _ _).1), friendlyIdentity_eq]

/-! ## One character -/

theorem octetBits_bigEndian (c : BitVec 16) :
    (bigEndian c).flatMap Base64.octetBits = Crc.msbBits c := by
  have hbits : ∀ i, i < 16 → c.getMsbD i = c.toNat.testBit (15 - i) := by
    intro i hi
    rw [BitVec.getMsbD_eq_getLsbD, BitVec.testBit_toNat]
    simp [hi]
  have hrange : List.range 16 = [0, 1, 2, 3, 4, 5, 6, 7, 8, 9, 10, 11, 12, 13, 14, 15] := rfl
  unfold Crc.msbBits
  rw [hrange]
  simp only [bigEndian, Base64.octetBits, List.flatMap_cons, List.flatMap_nil, List.map_cons,
    List.map_nil, List.cons_append, List.nil_append, List.cons.injEq, and_true]
  and_intros
  all_goals
    rw [hbits _ (by decide)]
    apply Base64.testBit_congr
    omega

/-- An address with its checksum has the remainder zero. -/
theorem run_octets (address : FriendlyAddress) :
    Crc.run crcPolynomial 0#16 (address.octets.flatMap Base64.octetBits) = 0#16 := by
  unfold FriendlyAddress.octets
  rw [List.flatMap_append, octetBits_bigEndian, Crc.run_append, Crc.run_checksum (by decide)]
  rfl

/-- A difference of one character has another remainder. -/
theorem eq_of_run_xor {v v' : Sextet} (h : Crc.run crcPolynomial 0#16
    (List.zipWith xor (Base64.sextetBits v) (Base64.sextetBits v')) = 0#16) : v = v' := by
  have hall : ∀ a b c d e f : Bool, Crc.run crcPolynomial 0#16 [a, b, c, d, e, f] = 0#16 →
      a = false ∧ b = false ∧ c = false ∧ d = false ∧ e = false ∧ f = false := by
    decide
  have hzero := hall _ _ _ _ _ _ h
  simp only [bne_eq_false_iff_eq] at hzero
  obtain ⟨h5, h4, h3, h2, h1, h0⟩ := hzero
  refine Base64.sextetBits_injective ?_
  simp only [Base64.sextetBits, List.map_cons, List.map_nil, h5, h4, h3, h2, h1, h0]

/-- The value of a character of either alphabet. -/
def sextetOf (c : Char) : Option Sextet :=
  (standardAlphabet.value? c).or (urlsafeAlphabet.value? c)

theorem sextetOf_char (urlsafe : Bool) (v : Sextet) :
    sextetOf ((addressAlphabet urlsafe).char v) = some v := by
  unfold sextetOf
  cases urlsafe with
  | false =>
      have hvalue : standardAlphabet.value? ((addressAlphabet false).char v) = some v :=
        Alphabet.value?_eq_some.mpr rfl
      rw [hvalue]
      rfl
  | true =>
      have hvalue : urlsafeAlphabet.value? ((addressAlphabet true).char v) = some v :=
        Alphabet.value?_eq_some.mpr rfl
      rw [hvalue]
      cases hstandard : standardAlphabet.value? ((addressAlphabet true).char v) with
      | none => rfl
      | some v' =>
          have hchar := Alphabet.value?_eq_some.mp hstandard
          have hmem : urlsafeAlphabet.char v ∈ standardAlphabet.chars :=
            (show standardAlphabet.char v' = urlsafeAlphabet.char v from hchar) ▸
              standardAlphabet.char_mem v'
          have hsame := char_eq_of_mem hmem
          exact congrArg some (standardAlphabet.char_injective (hchar.trans hsame))

/-- The values of the characters of an encoding. -/
theorem map_sextetOf (urlsafe : Bool) (octets : List Octet) :
    (Base64.encode (addressAlphabet urlsafe) octets).map sextetOf =
      (encodeValues octets).map some := by
  unfold Base64.encode
  rw [List.map_map]
  exact List.map_congr_left fun v _ => sextetOf_char urlsafe v

theorem flatMap_octets (address : FriendlyAddress) :
    address.octets.flatMap Base64.octetBits =
      (encodeValues address.octets).flatMap Base64.sextetBits :=
  Base64.flatMap_octetBits
    (Base64.decodeValues_eq_some.mpr ⟨⟨12, address.length_octets⟩, rfl⟩)

theorem map_eq_append_cons {values : List Sextet} {before after : List (Option Sextet)}
    {v : Sextet} (h : values.map some = before ++ some v :: after) :
    ∃ front back, values = front ++ v :: back ∧ before = front.map some ∧
      after = back.map some := by
  obtain ⟨front, rest, rfl, rfl, hrest⟩ := List.map_eq_append_iff.mp h
  obtain ⟨v', back, rfl, hv, rfl⟩ := List.map_eq_cons_iff.mp hrest
  cases hv
  exact ⟨front, back, rfl, rfl, rfl⟩

/-- Two encodings that differ in one character are of one value there. -/
theorem value_eq_of_encodings {before after : Text} {c c' : Char} {v v' : Sextet}
    {urlsafe' : Bool} {address' : FriendlyAddress}
    (h : before ++ c :: after = address.encode urlsafe)
    (h' : before ++ c' :: after = address'.encode urlsafe')
    (hc : sextetOf c = some v) (hc' : sextetOf c' = some v') : v = v' := by
  have hvalues := congrArg (List.map sextetOf) h
  have hvalues' := congrArg (List.map sextetOf) h'
  unfold FriendlyAddress.encode at hvalues hvalues'
  rw [map_sextetOf, List.map_append, List.map_cons, hc] at hvalues
  rw [map_sextetOf, List.map_append, List.map_cons, hc'] at hvalues'
  obtain ⟨front, back, hsplit, hfront, hback⟩ := map_eq_append_cons hvalues.symm
  obtain ⟨front', back', hsplit', hfront', hback'⟩ := map_eq_append_cons hvalues'.symm
  have hsome : Function.Injective (some : Sextet → Option Sextet) := Option.some_injective _
  cases hsome.list_map (hfront.symm.trans hfront')
  cases hsome.list_map (hback.symm.trans hback')
  have hrun := run_octets address
  have hrun' := run_octets address'
  rw [flatMap_octets, hsplit, List.flatMap_append, List.flatMap_cons, ← List.append_assoc] at hrun
  rw [flatMap_octets, hsplit', List.flatMap_append, List.flatMap_cons, ← List.append_assoc]
    at hrun'
  exact eq_of_run_xor (Crc.run_burst (by decide) rfl hrun hrun')

/-! ## Either format -/

theorem char_cases : ∀ (urlsafe : Bool) (v : Sextet),
    isSpace ((addressAlphabet urlsafe).char v) = false ∧
      (addressAlphabet urlsafe).char v ≠ ':' := by
  decide +kernel

theorem of_mem_encode (h : c ∈ FriendlyAddress.encode urlsafe address) :
    isSpace c = false ∧ c ≠ ':' := by
  obtain ⟨v, -, rfl⟩ := List.mem_map.mp h
  exact char_cases urlsafe v

theorem isSpace_of_parseRaw (h : parseRaw value = some found) (hc : c ∈ value) :
    isSpace c = false := by
  obtain ⟨workchain, account, rfl, hworkchain, haccount, -⟩ := parseRaw_eq_some.mp h
  obtain hc | hc := List.mem_append.mp hc
  · obtain rfl | hdigit := of_mem_workchainText hworkchain hc
    · rfl
    · refine isSpace_of_isHexDigit ?_
      unfold isHexDigit
      rw [hdigit, Bool.true_or, Bool.true_or]
  · obtain rfl | hc := List.mem_cons.mp hc
    · rfl
    · exact isSpace_of_isHexDigit (List.all_eq_true.mp (Bool.and_eq_true_iff.mp haccount).2 c hc)

theorem parseTonAddress_eq_some : parseTonAddress value = some found ↔
    parseRaw value = some found ∨ parseUserFriendly value = some found := by
  have hor : (parseRaw value).or (parseUserFriendly value) = some found ↔
      parseRaw value = some found ∨ parseUserFriendly value = some found := by
    rw [Option.or_eq_some_iff]
    refine or_congr_right (and_iff_right_of_imp fun h => ?_)
    obtain ⟨urlsafe, address, rfl, -⟩ := parseUserFriendly_eq_some.mp h
    refine Option.eq_none_iff_forall_ne_some.mpr fun other hraw => ?_
    obtain ⟨workchain, account, hvalue, -⟩ := parseRaw_eq_some.mp hraw
    have hcolon : ':' ∈ address.encode urlsafe := by
      rw [hvalue]
      exact List.mem_append_right _ List.mem_cons_self
    exact (of_mem_encode hcolon).2 rfl
  unfold parseTonAddress
  by_cases hguard : value ≠ strip value ∨ value = []
  · rw [if_pos hguard]
    refine iff_of_false (fun h => nomatch h) fun h => ?_
    obtain hspaces | rfl := hguard
    · refine hspaces (strip_of_forall fun c hc => ?_).symm
      obtain h | h := h
      · exact isSpace_of_parseRaw h hc
      · obtain ⟨urlsafe, address, rfl, -⟩ := parseUserFriendly_eq_some.mp h
        exact (of_mem_encode hc).1
    · obtain h | h := h
      · obtain ⟨workchain, account, hvalue, -⟩ := parseRaw_eq_some.mp h
        exact List.append_ne_nil_of_right_ne_nil workchain (List.cons_ne_nil _ _) hvalue.symm
      · obtain ⟨urlsafe, address, hvalue, -⟩ := parseUserFriendly_eq_some.mp h
        have hlength : (address.encode urlsafe).length = 48 := length_encode address.length_octets
        rw [← hvalue] at hlength
        cases hlength
  · rw [if_neg hguard]
    exact hor

theorem friendly_of_format (h : parseTonAddress value = some found)
    (hformat : found.submittedFormat = .userFriendly) :
    ∃ urlsafe address, value = FriendlyAddress.encode urlsafe address ∧
      found = address.identity := by
  obtain h | h := parseTonAddress_eq_some.mp h
  · obtain ⟨workchain, account, -, -, -, -, -, rfl⟩ := parseRaw_eq_some.mp h
    cases hformat
  · exact parseUserFriendly_eq_some.mp h

theorem parse_encode (urlsafe : Bool) (address : FriendlyAddress) :
    parseTonAddress (address.encode urlsafe) = some address.identity :=
  parseTonAddress_eq_some.mpr (.inr (parseUserFriendly_eq_some.mpr ⟨urlsafe, address, rfl, rfl⟩))

/-! ## Canonical addresses -/

/-- A workchain and account hash as a canonical address spells them. -/
structure CanonicalParts (found : TonAddressIdentity) (workchain : Int) (account : Text) :
    Prop where
  workchain_ge : minWorkchain ≤ workchain
  workchain_le : workchain ≤ maxWorkchain
  length : account.length = 64
  digits : ∀ c ∈ account, isLowerHexDigit c = true
  workchainId : found.workchainId = some workchain
  accountIdHex : found.accountIdHex = some account
  canonical : found.canonicalAddress = some (canonicalAddress workchain account)

theorem digitChar_lower : ∀ n, n < 16 → isLowerHexDigit (Nat.digitChar n) = true := by
  decide

theorem hexText_spec (data : List Octet) : (hexText data).length = 2 * data.length ∧
    ∀ c ∈ hexText data, isLowerHexDigit c = true := by
  unfold hexText
  induction data with
  | nil => exact ⟨rfl, fun _ h => absurd h List.not_mem_nil⟩
  | cons octet data ih =>
      rw [List.flatMap_cons]
      constructor
      · rw [List.length_append, ih.1]
        simp
        omega
      · intro c hc
        obtain hc | hc := List.mem_append.mp hc
        · obtain rfl | hc := List.mem_cons.mp hc
          · exact digitChar_lower _ (by omega)
          · rw [List.mem_singleton.mp hc]
            exact digitChar_lower _ (by omega)
        · exact ih.2 c hc

theorem digitChar_injective : ∀ m, m < 16 → ∀ n, n < 16 → Nat.digitChar m = Nat.digitChar n →
    m = n := by
  decide

theorem hexText_injective {data data' : List Octet} (h : hexText data = hexText data') :
    data = data' := by
  induction data generalizing data' with
  | nil =>
      cases data' with
      | nil => rfl
      | cons octet data' => cases h
  | cons octet data ih =>
      cases data' with
      | nil => cases h
      | cons octet' data' =>
          obtain ⟨hhigh, h⟩ := List.cons.inj h
          obtain ⟨hlow, h⟩ := List.cons.inj h
          have hhigh := digitChar_injective _ (by omega) _ (by omega) hhigh
          have hlow := digitChar_injective _ (by omega) _ (by omega) hlow
          rw [ih h, Fin.ext (by omega : octet.val = octet'.val)]

theorem length_lower (text : Text) : (lower text).length = text.length := List.length_map _

theorem lower_of_digits (h : ∀ c ∈ text, isLowerHexDigit c = true) : lower text = text :=
  (List.map_congr_left fun c hc => toLower_of_isLowerHexDigit (h c hc)).trans (List.map_id' text)

theorem isHex256_of_digits (hlength : text.length = 64)
    (h : ∀ c ∈ text, isLowerHexDigit c = true) : isHex256 text = true := by
  unfold isHex256
  rw [Bool.and_eq_true_iff, beq_iff_eq, List.all_eq_true]
  exact ⟨hlength, fun c hc => isHexDigit_of_isLowerHexDigit (h c hc)⟩

theorem canonicalParts_raw {workchain : Int} {account : Text} (haccount : isHex256 account = true)
    (hge : minWorkchain ≤ workchain) (hle : workchain ≤ maxWorkchain) :
    CanonicalParts (rawIdentity workchain (lower account)) workchain (lower account) := by
  unfold isHex256 at haccount
  rw [Bool.and_eq_true_iff, beq_iff_eq, List.all_eq_true] at haccount
  refine ⟨hge, hle, (length_lower account).trans haccount.1, fun c hc => ?_, rfl, rfl, rfl⟩
  obtain ⟨digit, hdigit, rfl⟩ := List.mem_map.mp hc
  exact isLowerHexDigit_toLower (haccount.2 digit hdigit)

theorem exists_canonicalParts (h : parseTonAddress value = some found) :
    ∃ workchain account, CanonicalParts found workchain account := by
  obtain h | h := parseTonAddress_eq_some.mp h
  · obtain ⟨workchain, account, -, -, haccount, hge, hle, rfl⟩ := parseRaw_eq_some.mp h
    exact ⟨_, _, canonicalParts_raw haccount hge hle⟩
  · obtain ⟨urlsafe, address, -, rfl⟩ := parseUserFriendly_eq_some.mp h
    obtain ⟨hlength, hdigits⟩ := hexText_spec address.account
    have hge := address.workchain_ge
    have hle := address.workchain_le
    refine ⟨_, _, ?_, ?_, ?_, hdigits, rfl, rfl, rfl⟩
    · unfold minWorkchain
      omega
    · unfold maxWorkchain
      omega
    · rw [hlength, address.length_account]

theorem parse_canonical {workchain : Int} {account : Text}
    (h : CanonicalParts found workchain account) :
    parseTonAddress (canonicalAddress workchain account) =
      some (rawIdentity workchain account) := by
  obtain ⟨htext, hvalue⟩ := workchainValue_intText workchain
  refine parseTonAddress_eq_some.mpr (.inl (parseRaw_eq_some.mpr ⟨intText workchain, account, rfl,
    htext, isHex256_of_digits h.length h.digits, ?_, ?_, ?_⟩))
  · rw [hvalue]
    exact h.workchain_ge
  · rw [hvalue]
    exact h.workchain_le
  · rw [hvalue, lower_of_digits h.digits]

theorem canonicalAddress_injective {workchain workchain' : Int} {account account' : Text}
    (h : canonicalAddress workchain account = canonicalAddress workchain' account') :
    workchain = workchain' ∧ account = account' := by
  have hne : ∀ workchain, ∀ c ∈ intText workchain, c ≠ ':' := fun workchain =>
    ne_colon_of_workchainText (workchainValue_intText workchain).1
  have hspan := congrArg (List.span (· != ':')) h
  unfold canonicalAddress at hspan
  rw [span_colon (hne workchain), span_colon (hne workchain')] at hspan
  obtain ⟨htext, haccount⟩ := Prod.mk.inj hspan
  refine ⟨?_, (List.cons.inj haccount).2⟩
  rw [← (workchainValue_intText workchain).2, htext, (workchainValue_intText workchain').2]

/-! ## The client -/

theorem isWorkchainText_of_bounded (h : isBoundedWorkchainText text = true) :
    isWorkchainText text = true := by
  unfold isBoundedWorkchainText at h
  unfold isWorkchainText
  split at h
  · exact (Bool.and_eq_true_iff.mp h).1
  · obtain h | h := Bool.or_eq_true_iff.mp h
    · exact Bool.or_eq_true_iff.mpr (.inl h)
    · exact Bool.or_eq_true_iff.mpr (.inr (Bool.and_eq_true_iff.mp h).1)

theorem isBounded_intText {workchain : Int} (hge : minWorkchain ≤ workchain)
    (hle : workchain ≤ maxWorkchain) : isBoundedWorkchainText (intText workchain) = true := by
  have hbounded : ∀ n, 0 < n → n ≤ 2 ^ 31 → isBoundedDecimal (Nat.toDigits 10 n) = true := by
    intro n hpos hn
    refine Bool.and_eq_true_iff.mpr ⟨isPositiveDecimal_toDigits hpos, decide_eq_true ?_⟩
    rw [Nat.length_toDigits_le_iff (by decide) (by decide)]
    omega
  unfold minWorkchain at hge
  unfold maxWorkchain at hle
  cases workchain with
  | negSucc n => exact hbounded (n + 1) (Nat.succ_pos n) (by omega)
  | ofNat n =>
      by_cases hn : n = 0
      · subst hn
        rfl
      · have hle' : n ≤ 2 ^ 31 := by
          have hcast : ((n : Nat) : Int) ≤ 2 ^ 31 - 1 := hle
          omega
        have hdigits := hbounded n (Nat.pos_of_ne_zero hn) hle'
        show isBoundedWorkchainText (Nat.toDigits 10 n) = true
        unfold isBoundedWorkchainText
        split
        · next digits heq =>
            rw [heq] at hdigits
            have hminus := (Bool.and_eq_true_iff.mp hdigits).1
            unfold isPositiveDecimal at hminus
            simp [isDigit] at hminus
        · exact Bool.or_eq_true_iff.mpr (.inr hdigits)

/-- The client accepts what the parser calls canonical. -/
theorem client_iff : isCanonicalRawTonAddress text = true ↔
    ∃ value found, parseTonAddress value = some found ∧ found.canonicalAddress = some text := by
  constructor
  · intro h
    unfold isCanonicalRawTonAddress at h
    split at h
    · next workchain c account hspan =>
        rw [Bool.and_eq_true_iff, Bool.and_eq_true_iff, Bool.and_eq_true_iff, beq_iff_eq,
          List.all_eq_true, decide_eq_true_eq] at h
        obtain ⟨⟨⟨hbounded, hlength⟩, hdigits⟩, hge, hle⟩ := h
        have hworkchain := isWorkchainText_of_bounded hbounded
        have hvalue := eq_of_span hspan
        have hraw : parseRaw text = some (rawIdentity (workchainValue workchain) account) := by
          refine parseRaw_eq_some.mpr ⟨workchain, account, hvalue, hworkchain,
            isHex256_of_digits hlength hdigits, hge, hle, ?_⟩
          rw [lower_of_digits hdigits]
        refine ⟨text, _, parseTonAddress_eq_some.mpr (.inl hraw), ?_⟩
        unfold rawIdentity canonicalAddress
        dsimp only
        rw [intText_workchainValue hworkchain, ← hvalue]
    · cases h
  · rintro ⟨value, found, hparse, hcanonical⟩
    obtain ⟨workchain, account, hparts⟩ := exists_canonicalParts hparse
    cases hcanonical.symm.trans hparts.canonical
    obtain ⟨htext, hvalue⟩ := workchainValue_intText workchain
    unfold isCanonicalRawTonAddress canonicalAddress
    rw [span_colon (ne_colon_of_workchainText htext)]
    dsimp only
    rw [isBounded_intText hparts.workchain_ge hparts.workchain_le, hparts.length, hvalue,
      List.all_eq_true.mpr hparts.digits]
    exact decide_eq_true ⟨hparts.workchain_ge, hparts.workchain_le⟩

/-! ## Spellings -/

/-- `+` and `/` as `-` and `_`. -/
def urlsafeChar (c : Char) : Char := if c = '+' then '-' else if c = '/' then '_' else c

theorem urlsafeChar_char : ∀ (urlsafe : Bool) (v : Sextet),
    urlsafeChar ((addressAlphabet urlsafe).char v) = urlsafeAlphabet.char v := by
  decide +kernel

theorem map_urlsafeChar (urlsafe : Bool) (address : FriendlyAddress) :
    (address.encode urlsafe).map urlsafeChar = address.encode true := by
  unfold FriendlyAddress.encode Base64.encode
  rw [List.map_map]
  exact List.map_congr_left fun v _ => urlsafeChar_char urlsafe v

/-- The tag, the workchain and the account of an identity. -/
def TonAddressIdentity.decoded (found : TonAddressIdentity) :
    Option Bool × Option Bool × Option Int × Option Text :=
  (found.bounceable, found.testnetOnly, found.workchainId, found.accountIdHex)

theorem address_eq_of_decoded {address' : FriendlyAddress}
    (h : address.identity.decoded = address'.identity.decoded) : address = address' := by
  obtain ⟨bounceable, testnetOnly, workchain, account, _, _, _⟩ := address
  obtain ⟨bounceable', testnetOnly', workchain', account', _, _, _⟩ := address'
  unfold TonAddressIdentity.decoded FriendlyAddress.identity at h
  simp only [Prod.mk.injEq, Option.some.injEq] at h
  obtain ⟨rfl, rfl, rfl, haccount⟩ := h
  cases hexText_injective haccount
  rfl

/-! ## The codec -/

/-- What the parser accepts, and what it returns. -/
structure ExactAddressCodec : Prop where
  decodes : ∀ urlsafe address,
    parseTonAddress (FriendlyAddress.encode urlsafe address) = some address.identity
  encodes : ∀ value found, parseTonAddress value = some found →
    found.submittedFormat = .userFriendly →
      ∃ urlsafe address, value = FriendlyAddress.encode urlsafe address ∧ found = address.identity
  spellings : ∀ value value' found found', parseTonAddress value = some found →
    parseTonAddress value' = some found' → found.submittedFormat = .userFriendly →
      found'.submittedFormat = .userFriendly →
        (found.decoded = found'.decoded ↔ value.map urlsafeChar = value'.map urlsafeChar)
  substitution : ∀ before after c c' v v' found,
    parseTonAddress (before ++ c :: after) = some found →
      found.submittedFormat = .userFriendly → sextetOf c = some v → sextetOf c' = some v' →
        v ≠ v' → parseTonAddress (before ++ c' :: after) = none
  idempotent : ∀ value found canonical, parseTonAddress value = some found →
    found.submittedFormat = .raw → found.canonicalAddress = some canonical →
      parseTonAddress canonical = some found
  canonical : ∀ value value' found found', parseTonAddress value = some found →
    parseTonAddress value' = some found' →
      (found.canonicalAddress = found'.canonicalAddress ↔
        found.workchainId = found'.workchainId ∧ found.accountIdHex = found'.accountIdHex)
  rawSpelling : ∀ (address : FriendlyAddress) account, isHex256 account = true →
    lower account = hexText address.account → ∃ found,
      parseTonAddress (canonicalAddress address.workchain account) = some found ∧
        found.submittedFormat = .raw ∧
        found.canonicalAddress = address.identity.canonicalAddress
  client : ∀ text, isCanonicalRawTonAddress text = true ↔
    ∃ value found, parseTonAddress value = some found ∧ found.canonicalAddress = some text

theorem parse_spellings {value' : Text} {found' : TonAddressIdentity}
    (h : parseTonAddress value = some found) (h' : parseTonAddress value' = some found')
    (hformat : found.submittedFormat = .userFriendly)
    (hformat' : found'.submittedFormat = .userFriendly) :
    found.decoded = found'.decoded ↔ value.map urlsafeChar = value'.map urlsafeChar := by
  obtain ⟨urlsafe, address, rfl, rfl⟩ := friendly_of_format h hformat
  obtain ⟨urlsafe', address', rfl, rfl⟩ := friendly_of_format h' hformat'
  rw [map_urlsafeChar, map_urlsafeChar]
  constructor
  · intro hdecoded
    rw [address_eq_of_decoded hdecoded]
  · intro hencode
    have hparse := parse_encode true address
    rw [hencode, parse_encode] at hparse
    rw [Option.some.inj hparse]

theorem parse_substitution {before after : Text} {c c' : Char} {v v' : Sextet}
    (h : parseTonAddress (before ++ c :: after) = some found)
    (hformat : found.submittedFormat = .userFriendly) (hc : sextetOf c = some v)
    (hc' : sextetOf c' = some v') (hne : v ≠ v') :
    parseTonAddress (before ++ c' :: after) = none := by
  obtain ⟨urlsafe, address, hvalue, -⟩ := friendly_of_format h hformat
  refine Option.eq_none_iff_forall_ne_some.mpr fun other hother => ?_
  obtain hraw | hfriendly := parseTonAddress_eq_some.mp hother
  · -- a raw address has a colon, which is no character of an alphabet
    obtain ⟨workchain, account, hsplit, -⟩ := parseRaw_eq_some.mp hraw
    have hcolon : ':' ∈ before ++ c' :: after := by
      rw [hsplit]
      exact List.mem_append_right _ List.mem_cons_self
    have hnot : ∀ d ∈ before ++ c :: after, d ≠ ':' := by
      rw [hvalue]
      exact fun d hd => (of_mem_encode hd).2
    obtain hmem | hmem := List.mem_append.mp hcolon
    · exact hnot ':' (List.mem_append_left _ hmem) rfl
    · obtain heq | hmem := List.mem_cons.mp hmem
      · have hnone : sextetOf ':' = none := by decide +kernel
        rw [← heq, hnone] at hc'
        cases hc'
      · exact hnot ':' (List.mem_append_right _ (List.mem_cons_of_mem _ hmem)) rfl
  · obtain ⟨urlsafe', address', hvalue', -⟩ := parseUserFriendly_eq_some.mp hfriendly
    exact hne (value_eq_of_encodings hvalue hvalue' hc hc')

theorem parse_idempotent {canonical : Text} (h : parseTonAddress value = some found)
    (hformat : found.submittedFormat = .raw)
    (hcanonical : found.canonicalAddress = some canonical) :
    parseTonAddress canonical = some found := by
  obtain ⟨workchain, account, hparts⟩ := exists_canonicalParts h
  cases hcanonical.symm.trans hparts.canonical
  rw [parse_canonical hparts]
  obtain h | h := parseTonAddress_eq_some.mp h
  · obtain ⟨workchain', account', -, -, -, -, -, rfl⟩ := parseRaw_eq_some.mp h
    cases hparts.workchainId
    cases hparts.accountIdHex
    rfl
  · obtain ⟨urlsafe, address, -, rfl⟩ := parseUserFriendly_eq_some.mp h
    cases hformat

theorem parse_canonical_iff {value' : Text} {found' : TonAddressIdentity}
    (h : parseTonAddress value = some found) (h' : parseTonAddress value' = some found') :
    found.canonicalAddress = found'.canonicalAddress ↔
      found.workchainId = found'.workchainId ∧ found.accountIdHex = found'.accountIdHex := by
  obtain ⟨workchain, account, hparts⟩ := exists_canonicalParts h
  obtain ⟨workchain', account', hparts'⟩ := exists_canonicalParts h'
  rw [hparts.canonical, hparts'.canonical, hparts.workchainId, hparts'.workchainId,
    hparts.accountIdHex, hparts'.accountIdHex]
  constructor
  · intro heq
    obtain ⟨rfl, rfl⟩ := canonicalAddress_injective (Option.some.inj heq)
    exact ⟨rfl, rfl⟩
  · rintro ⟨hworkchain, haccount⟩
    cases hworkchain
    cases haccount
    rfl

theorem parse_rawSpelling (address : FriendlyAddress) {account : Text}
    (haccount : isHex256 account = true) (hlower : lower account = hexText address.account) :
    ∃ found, parseTonAddress (canonicalAddress address.workchain account) = some found ∧
      found.submittedFormat = .raw ∧
        found.canonicalAddress = address.identity.canonicalAddress := by
  obtain ⟨htext, hvalue⟩ := workchainValue_intText address.workchain
  have hge := address.workchain_ge
  have hle := address.workchain_le
  have hraw : parseRaw (canonicalAddress address.workchain account) =
      some (rawIdentity address.workchain (lower account)) := by
    refine parseRaw_eq_some.mpr ⟨_, account, rfl, htext, haccount, ?_, ?_, ?_⟩
    · rw [hvalue]
      unfold minWorkchain
      omega
    · rw [hvalue]
      unfold maxWorkchain
      omega
    · rw [hvalue]
  refine ⟨_, parseTonAddress_eq_some.mpr (.inl hraw), rfl, ?_⟩
  rw [hlower]
  rfl

theorem ton_address_codec : ExactAddressCodec where
  decodes := parse_encode
  encodes _ _ := friendly_of_format
  spellings _ _ _ _ := parse_spellings
  substitution _ _ _ _ _ _ _ := parse_substitution
  idempotent _ _ _ := parse_idempotent
  canonical _ _ _ _ := parse_canonical_iff
  rawSpelling address _ := parse_rawSpelling address
  client _ := client_iff

end TonTracker
