/-
# `Services.TonAddressIdentity` — strict TON addresses

`parse_ton_address` and what it calls (`services/ton_address_identity.py`),
and the validator of the client (`tonAddress.ts`).  A regular expression is
written as the test of the parts it matches; an `int` of more digits than
Python reads is out of range in any case.
-/
import TonTracker.Lib.Base64
import TonTracker.Lib.Crc
import TonTracker.Services.IngestionRun

namespace TonTracker

open Base64 (Octet Alphabet)
open FixedDigits (isDigit)

/-! ## Identities -/

inductive TonNetwork where
  | mainnet
  | testnet
  | unknown
deriving DecidableEq

inductive TonAddressFormat where
  | userFriendly
  | raw
  | unrecognized
deriving DecidableEq

inductive TonIdentityStatus where
  | networkScoped
  | unscoped
  | unavailable
deriving DecidableEq

inductive TonIdentityVersion where
  | std
  | raw
  | unavailable
deriving DecidableEq

structure TonAddressIdentity where
  status : TonIdentityStatus
  version : TonIdentityVersion
  network : TonNetwork
  canonicalAddress : Option Text
  workchainId : Option Int
  accountIdHex : Option Text
  submittedFormat : TonAddressFormat
  bounceable : Option Bool
  testnetOnly : Option Bool
deriving DecidableEq

/-- `f"{value}"` of an integer. -/
def intText : Int → Text
  | .ofNat n => Nat.toDigits 10 n
  | .negSucc n => '-' :: Nat.toDigits 10 (n + 1)

/-- `f"{workchain_id}:{account_id_hex}"`. -/
def canonicalAddress (workchainId : Int) (accountIdHex : Text) : Text :=
  intText workchainId ++ ':' :: accountIdHex

/-! ## Raw addresses -/

/-- `[1-9][0-9]*`. -/
def isPositiveDecimal : Text → Bool
  | [] => false
  | c :: cs => c != '0' && (c :: cs).all isDigit

/-- `0|[1-9][0-9]*|-[1-9][0-9]*`. -/
def isWorkchainText : Text → Bool
  | '-' :: digits => isPositiveDecimal digits
  | digits => digits == ['0'] || isPositiveDecimal digits

/-- `int(text, 10)` of such a text. -/
def workchainValue : Text → Int
  | '-' :: digits => -(decimalValue digits : Int)
  | digits => decimalValue digits

def minWorkchain : Int := -2 ^ 31
def maxWorkchain : Int := 2 ^ 31 - 1

/-- What `_parse_raw` returns. -/
def rawIdentity (workchainId : Int) (accountIdHex : Text) : TonAddressIdentity where
  status := .unscoped
  version := .raw
  network := .unknown
  canonicalAddress := some (canonicalAddress workchainId accountIdHex)
  workchainId := some workchainId
  accountIdHex := some accountIdHex
  submittedFormat := .raw
  bounceable := none
  testnetOnly := none

/-- `_parse_raw`. -/
def parseRaw (value : Text) : Option TonAddressIdentity :=
  match value.span (· != ':') with
  | (workchain, _ :: account) =>
      if isWorkchainText workchain && isHex256 account then
        let workchainId := workchainValue workchain
        if minWorkchain ≤ workchainId ∧ workchainId ≤ maxWorkchain then
          some (rawIdentity workchainId (lower account))
        else none
      else none
  | (_, []) => none

/-! ## User-friendly addresses -/

/-- `A-Za-z0-9`. -/
def alphanumerics : List Char :=
  ['A', 'B', 'C', 'D', 'E', 'F', 'G', 'H', 'I', 'J', 'K', 'L', 'M', 'N', 'O', 'P', 'Q', 'R', 'S',
    'T', 'U', 'V', 'W', 'X', 'Y', 'Z', 'a', 'b', 'c', 'd', 'e', 'f', 'g', 'h', 'i', 'j', 'k', 'l',
    'm', 'n', 'o', 'p', 'q', 'r', 's', 't', 'u', 'v', 'w', 'x', 'y', 'z', '0', '1', '2', '3', '4',
    '5', '6', '7', '8', '9']

def standardAlphabet : Alphabet where
  chars := alphanumerics ++ ['+', '/']
  length_eq := rfl
  nodup := by decide +kernel

def urlsafeAlphabet : Alphabet where
  chars := alphanumerics ++ ['-', '_']
  length_eq := rfl
  nodup := by decide +kernel

/-- `_decode_user_friendly`. -/
def decodeUserFriendly (value : Text) : Option (List Octet) :=
  if value.length ≠ 48 then none
  else if value.all (standardAlphabet.chars.contains ·) then
    (Base64.decode standardAlphabet value).filter (·.length = 36)
  else if value.all (urlsafeAlphabet.chars.contains ·) then
    (Base64.decode urlsafeAlphabet value).filter (·.length = 36)
  else none

/-- The polynomial of CRC-CCITT. -/
def crcPolynomial : BitVec 16 := 0x1021#16

/-- `_crc16_ccitt`. -/
def crc16Ccitt (data : List Octet) : BitVec 16 :=
  Crc.run crcPolynomial 0#16 (data.flatMap Base64.octetBits)

/-- `value.to_bytes(2, "big")`. -/
def bigEndian (value : BitVec 16) : List Octet :=
  [⟨value.toNat / 256, by omega⟩, ⟨value.toNat % 256, by omega⟩]

/-- `int.from_bytes([octet], "big", signed=True)`. -/
def signedOctet (octet : Octet) : Int := if octet.val < 128 then octet.val else octet.val - 256

/-- `data.hex()`. -/
def hexText (data : List Octet) : Text :=
  data.flatMap fun octet => [Nat.digitChar (octet.val / 16), Nat.digitChar (octet.val % 16)]

/-- What `_parse_user_friendly` returns for a payload. -/
def friendlyIdentity (tag workchain : Octet) (account : List Octet) : TonAddressIdentity :=
  let testnetOnly := decide (tag.val &&& 0x80 ≠ 0)
  let bounceable := decide (tag.val &&& 0x40 = 0)
  let workchainId := signedOctet workchain
  { status := .networkScoped
    version := .std
    network := if testnetOnly then .testnet else .mainnet
    canonicalAddress := some (canonicalAddress workchainId (hexText account))
    workchainId := some workchainId
    accountIdHex := some (hexText account)
    submittedFormat := .userFriendly
    bounceable := some bounceable
    testnetOnly := some testnetOnly }

/-- `_parse_user_friendly`. -/
def parseUserFriendly (value : Text) : Option TonAddressIdentity :=
  match decodeUserFriendly value with
  | none => none
  | some decoded =>
      let payload := decoded.take 34
      let checksum := decoded.drop 34
      if checksum ≠ bigEndian (crc16Ccitt payload) then none
      else
        match payload with
        | tag :: workchain :: account =>
            if tag.val &&& 0x3F ≠ 0x11 then none
            else some (friendlyIdentity tag workchain account)
        | _ => none

/-- `parse_ton_address` of a `str`. -/
def parseTonAddress (value : Text) : Option TonAddressIdentity :=
  if value ≠ strip value ∨ value = [] then none
  else (parseRaw value).or (parseUserFriendly value)

/-! ## The client -/

/-- `[1-9][0-9]{0,9}`. -/
def isBoundedDecimal (digits : Text) : Bool := isPositiveDecimal digits && digits.length ≤ 10

/-- `0|[1-9][0-9]{0,9}|-[1-9][0-9]{0,9}`. -/
def isBoundedWorkchainText : Text → Bool
  | '-' :: digits => isBoundedDecimal digits
  | digits => digits == ['0'] || isBoundedDecimal digits

/-- `isCanonicalRawTonAddress` of a string. -/
def isCanonicalRawTonAddress (value : Text) : Bool :=
  match value.span (· != ':') with
  | (workchain, _ :: account) =>
      isBoundedWorkchainText workchain && account.length == 64 && account.all isLowerHexDigit &&
        decide (-2147483648 ≤ workchainValue workchain ∧ workchainValue workchain ≤ 2147483647)
  | (_, []) => false

end TonTracker
