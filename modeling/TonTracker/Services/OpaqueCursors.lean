/-
# `Services.OpaqueCursors` — the cursors of the paged reads

A cursor is the canonical JSON of a document in URL-safe base64, a dot, and
the HMAC of that JSON under a key of its kind (`services/wallet_cases.py`
and `services/wallet_case_activity.py`).  The decoders read the document
back, check its signature, write it again and compare.  `json.loads`, HMAC
and the text of a float are arguments.
-/
import TonTracker.Services.TonAddressIdentity
import TonTracker.Lib.Base64Unpadded

namespace TonTracker

open Base64 (Octet encodeUnpadded decodeUnpadded)

/-- The keys `_CASE_CATALOG_CURSOR_KEY`, `_CHECKPOINT_HISTORY_CURSOR_KEY`,
`_BACKFILL_OUTCOME_HISTORY_CURSOR_KEY` and `_CURSOR_KEY`. -/
inductive CursorKind where
  | caseCatalog
  | checkpointHistory
  | backfillOutcomeHistory
  | activity
deriving DecidableEq

/-- What the codecs use of the standard library: `json.loads` of decoded
UTF-8 (`none` where it raises a `ValueError`), `hmac.new(…, sha256).digest()`,
the JSON text of a float and whether it equals an integer. -/
structure CursorLibrary where
  loads : List Octet → Option Json
  hmac : CursorKind → List Octet → { digest : List Octet // digest.length = 32 }
  floatText : Bool → Text → Option Text
  floatIs : Text → Int → Bool

/-- A JSON object. -/
abbrev CursorDocument := List (String × Json)

/-! ## Canonical JSON -/

/-- `\\uXXXX`. -/
def unicodeEscape (unit : Nat) : Text :=
  ['\\', 'u', Nat.digitChar (unit / 4096 % 16), Nat.digitChar (unit / 256 % 16),
    Nat.digitChar (unit / 16 % 16), Nat.digitChar (unit % 16)]

/-- A character between quotes, in ASCII. -/
def jsonChar (c : Char) : Text :=
  if c = '"' then ['\\', '"']
  else if c = '\\' then ['\\', '\\']
  else if c = '\n' then ['\\', 'n']
  else if c = '\r' then ['\\', 'r']
  else if c = '\t' then ['\\', 't']
  else if c.toNat = 8 then ['\\', 'b']
  else if c.toNat = 12 then ['\\', 'f']
  else if 32 ≤ c.toNat ∧ c.toNat ≤ 126 then [c]
  else if c.toNat < 65536 then unicodeEscape c.toNat
  else unicodeEscape (55296 + (c.toNat - 65536) / 1024) ++
    unicodeEscape (56320 + (c.toNat - 65536) % 1024)

def jsonString (s : Text) : Text := '"' :: (s.flatMap jsonChar ++ ['"'])

/-- `",".join(…)`. -/
def commaJoined : List Text → Text
  | [] => []
  | [text] => text
  | text :: texts => text ++ ',' :: commaJoined texts

/-- The members of an object in the order of their keys. -/
def sortedMembers (members : List (String × Text)) : List (String × Text) :=
  members.mergeSort fun a b => decide (a.1 ≤ b.1)

mutual

/-- `json.dumps(value, sort_keys=True, separators=(",", ":"),
ensure_ascii=True, allow_nan=…)`. -/
def dumpedText (lib : CursorLibrary) (allowNan : Bool) : Json → Option Text
  | .null => some ['n', 'u', 'l', 'l']
  | .bool true => some ['t', 'r', 'u', 'e']
  | .bool false => some ['f', 'a', 'l', 's', 'e']
  | .int i => some (if i < 0 then '-' :: Nat.toDigits 10 i.natAbs else Nat.toDigits 10 i.natAbs)
  | .float literal => lib.floatText allowNan literal
  | .str s => some (jsonString s)
  | .arr values => (dumpedTexts lib allowNan values).map fun texts =>
      '[' :: (commaJoined texts ++ [']'])
  | .obj fields => (dumpedMembers lib allowNan fields).map fun members =>
      '\x7b' :: (commaJoined ((sortedMembers members).map fun member =>
        jsonString member.1.toList ++ ':' :: member.2) ++ ['\x7d'])

def dumpedTexts (lib : CursorLibrary) (allowNan : Bool) : List Json → Option (List Text)
  | [] => some []
  | value :: values =>
      (dumpedText lib allowNan value).bind fun text =>
        (dumpedTexts lib allowNan values).map (text :: ·)

def dumpedMembers (lib : CursorLibrary) (allowNan : Bool) :
    List (String × Json) → Option (List (String × Text))
  | [] => some []
  | (key, value) :: fields =>
      (dumpedText lib allowNan value).bind fun text =>
        (dumpedMembers lib allowNan fields).map ((key, text) :: ·)

end

/-- `text.encode(…)` of an ASCII text. -/
def asciiOctets (text : Text) : List Octet := text.map fun c => ⟨c.toNat % 256, by omega⟩

/-! ## Encoding -/

namespace CursorLibrary

variable (lib : CursorLibrary)

/-- `_canonical_json` and `_case_catalog_cursor_json`; only the first refuses
a NaN. -/
def payload (kind : CursorKind) (document : CursorDocument) : Option (List Octet) :=
  (dumpedText lib (decide (kind ≠ .activity)) (.obj document)).map asciiOctets

/-- `hmac.new(…).hexdigest()`. -/
def signature (kind : CursorKind) (payload : List Octet) : Text := hexText (lib.hmac kind payload).1

/-- `f"{encoded}.{signature}"`. -/
def sealed (kind : CursorKind) (payload : List Octet) : Text :=
  encodeUnpadded urlsafeAlphabet payload ++ '.' :: lib.signature kind payload

/-- `_encode_case_catalog_cursor`, `_encode_checkpoint_history_cursor`,
`_encode_backfill_outcome_history_cursor` and `_encode_cursor`, under the key
of the kind. -/
def encodeCursor (kind : CursorKind) (document : CursorDocument) : Option Text :=
  (lib.payload kind document).map (lib.sealed kind)

/-! ## Decoding -/

/-- The two sides of the dot, where they have the characters of a cursor. -/
def cursorParts (value : Text) : Option (Text × Text) :=
  if value = [] ∨ 1024 < value.length ∨ value.count '.' ≠ 1 then none
  else
    let encoded := value.takeWhile (· ≠ '.')
    let signature := (value.dropWhile (· ≠ '.')).drop 1
    if encoded = [] ∨ signature.length ≠ 64 ∨ ¬ signature.all isLowerHexDigit ∨
        ¬ encoded.all (urlsafeAlphabet.chars.contains ·) then none
    else some (encoded, signature)

/-- The payload of a cursor, its signature and what the payload reads as. -/
structure OpenedCursor where
  raw : List Octet
  signature : Text
  document : Json

/-- A cursor up to its JSON; `none` is the first refusal of the decoders. -/
def openCursor (value : Text) : Option OpenedCursor := do
  let (encoded, signature) ← cursorParts value
  let raw ← decodeUnpadded urlsafeAlphabet encoded
  let document ← lib.loads raw
  return ⟨raw, signature, document⟩

/-- `value == version`, for a JSON value. -/
def versionIs (version : Int) : Json → Bool
  | .int i => i = version
  | .bool b => (if b then 1 else 0) = version
  | .float literal => lib.floatIs literal version
  | _ => false

end CursorLibrary

/-- `set(document) == keys`. -/
def hasCursorKeys (keys : List String) (document : CursorDocument) : Bool :=
  document.all (fun field => keys.contains field.1) &&
    keys.all fun key => (document.map (·.1)).contains key

/-- How a decoder ends without a document: by its own error, or by one it
lets through. -/
inductive CursorRaised where
  | invalidCursor (message : String)
  | typeError
  | valueError
deriving DecidableEq

/-- The messages of one decoder. -/
structure CursorMessages where
  invalid : String
  shape : String
  signature : String

/-- What the three decoders of `services/wallet_cases.py` share. -/
def CursorLibrary.decodeSigned (lib : CursorLibrary) (kind : CursorKind) (keys : List String)
    (version : Int) (messages : CursorMessages) (value : Text) :
    Except CursorRaised CursorDocument :=
  match lib.openCursor value with
  | none => .error (.invalidCursor messages.invalid)
  | some opened =>
      match opened.document with
      | .obj document =>
          if hasCursorKeys keys document = false ∨
              lib.versionIs version (Json.get document "v") = false then
            .error (.invalidCursor messages.shape)
          else if opened.signature ≠ lib.signature kind opened.raw ∨
              lib.encodeCursor kind document ≠ some value then
            .error (.invalidCursor messages.signature)
          else .ok document
      | _ => .error (.invalidCursor messages.shape)

/-! ### The case catalog -/

def caseCatalogKeys : List String := ["v", "scope", "state", "filters", "cutoff", "after"]

def caseCatalogMessages : CursorMessages where
  invalid := "Wallet Case catalog cursor is invalid."
  shape := "Wallet Case catalog cursor shape is invalid."
  signature := "Wallet Case catalog cursor signature is invalid."

/-- A `str` of 64 lowercase hexadecimal digits. -/
def isDigestValue : Json → Bool
  | .str text => text.length = 64 && text.all isLowerHexDigit
  | _ => false

/-- `state in {"active", "archived"}`, which hashes the state. -/
def isCatalogState : Json → Except CursorRaised Bool
  | .str text => .ok (text = "active".toList || text = "archived".toList)
  | .arr _ => .error .typeError
  | .obj _ => .error .typeError
  | _ => .ok false

/-- The `int`s of a page: `1 <= after <= cutoff`. -/
def isPosition : Json → Json → Bool
  | .int cutoff, .int after => 1 ≤ cutoff && 1 ≤ after && after ≤ cutoff
  | _, _ => false

/-- `_decode_case_catalog_cursor`. -/
def CursorLibrary.decodeCaseCatalogCursor (lib : CursorLibrary) (value : Text) :
    Except CursorRaised CursorDocument := do
  let document ← lib.decodeSigned .caseCatalog caseCatalogKeys 3 caseCatalogMessages value
  let refused := CursorRaised.invalidCursor "Wallet Case catalog cursor values are invalid."
  if isDigestValue (Json.get document "scope") = false then throw refused
  else
    let known ← isCatalogState (Json.get document "state")
    if known && isDigestValue (Json.get document "filters") &&
        isPosition (Json.get document "cutoff") (Json.get document "after") then return document
    else throw refused

/-! ### The histories -/

def historyKeys : List String := ["v", "case", "cutoff", "after"]

def checkpointHistoryMessages : CursorMessages where
  invalid := "Checkpoint history cursor is invalid."
  shape := "Checkpoint history cursor shape is invalid."
  signature := "Checkpoint history cursor signature is invalid."

/-- `scp_` and 64 lowercase hexadecimal digits. -/
def isCheckpointId : Json → Bool
  | .str text => text.length = 68 && text.take 4 = ['s', 'c', 'p', '_'] &&
      (text.drop 4).all isLowerHexDigit
  | _ => false

/-- A `str` of 36 characters. -/
def hasIdLength : Json → Bool
  | .str text => text.length = 36
  | _ => false

/-- `_decode_checkpoint_history_cursor`. -/
def CursorLibrary.decodeCheckpointHistoryCursor (lib : CursorLibrary) (value : Text) :
    Except CursorRaised CursorDocument := do
  let document ← lib.decodeSigned .checkpointHistory historyKeys 1 checkpointHistoryMessages value
  if hasIdLength (Json.get document "case") && isCheckpointId (Json.get document "cutoff") &&
      isCheckpointId (Json.get document "after") then return document
  else throw (.invalidCursor "Checkpoint history cursor identifiers are invalid.")

def backfillOutcomeHistoryMessages : CursorMessages where
  invalid := "Backfill Outcome history cursor is invalid."
  shape := "Backfill Outcome history cursor shape is invalid."
  signature := "Backfill Outcome history cursor signature is invalid."

/-- A `str` that `UUID` prints back, of a version from 1 to 5. -/
def isCanonicalUuid : Json → Bool
  | .str text => text.length = 36 &&
      text.zipIdx.all (fun (c, i) =>
        if i = 8 ∨ i = 13 ∨ i = 18 ∨ i = 23 then c = '-' else isLowerHexDigit c) &&
      (text.drop 14).head?.any (['1', '2', '3', '4', '5'].contains ·) &&
      (text.drop 19).head?.any (['8', '9', 'a', 'b'].contains ·)
  | _ => false

/-- `_decode_backfill_outcome_history_cursor`. -/
def CursorLibrary.decodeBackfillOutcomeHistoryCursor (lib : CursorLibrary) (value : Text) :
    Except CursorRaised CursorDocument := do
  let document ← lib.decodeSigned .backfillOutcomeHistory historyKeys 1
    backfillOutcomeHistoryMessages value
  if isCanonicalUuid (Json.get document "case") && isCanonicalUuid (Json.get document "cutoff") &&
      isCanonicalUuid (Json.get document "after") then return document
  else throw (.invalidCursor "Backfill Outcome history cursor identifiers are invalid.")

/-! ### The activity -/

def activityKeys : List String := ["v", "case", "snapshot", "filter_sha256", "sort", "after"]

/-- `_decode_cursor`. -/
def CursorLibrary.decodeActivityCursor (lib : CursorLibrary) (value : Text) :
    Except CursorRaised CursorDocument :=
  match lib.openCursor value with
  | none => .error (.invalidCursor "Activity cursor is invalid.")
  | some opened =>
      match opened.document with
      | .obj document =>
          if lib.versionIs 1 (Json.get document "v") = false then
            .error (.invalidCursor "Activity cursor version is invalid.")
          else if opened.signature ≠ lib.signature .activity opened.raw then
            .error (.invalidCursor "Activity cursor signature is invalid.")
          else
            match lib.encodeCursor .activity document with
            | none => .error .valueError
            | some encoded =>
                if encoded ≠ value then
                  .error (.invalidCursor "Activity cursor is not canonical.")
                else if hasCursorKeys activityKeys document = false then
                  .error (.invalidCursor "Activity cursor shape is invalid.")
                else
                  match Json.get document "snapshot" with
                  | .str _ => .ok document
                  | _ => .error (.invalidCursor "Activity cursor snapshot is invalid.")
      | _ => .error (.invalidCursor "Activity cursor version is invalid.")

/-! ## The documents the services sign -/

/-- A row id of the database. -/
structure RowId where
  val : Nat
  pos : 1 ≤ val
  bounded : val < 2 ^ 63

/-- The document of a catalog cursor, by its keys. -/
structure CaseCatalogCursor where
  scope : HexDigest
  archived : Bool
  filters : HexDigest
  cutoff : RowId
  after : RowId
  within : after.val ≤ cutoff.val

def CaseCatalogCursor.document (c : CaseCatalogCursor) : CursorDocument :=
  [("after", .int c.after.val), ("cutoff", .int c.cutoff.val), ("filters", .str c.filters.text),
    ("scope", .str c.scope.text),
    ("state", .str (if c.archived then "archived".toList else "active".toList)), ("v", .int 3)]

/-- `scp_` and a digest. -/
def checkpointId (digest : HexDigest) : Text := ['s', 'c', 'p', '_'] ++ digest.text

/-- A UUID in its canonical text. -/
structure CanonicalUuid where
  text : Text
  canonical : isCanonicalUuid (.str text) = true

structure CheckpointHistoryCursor where
  casePublicId : CanonicalUuid
  cutoff : HexDigest
  after : HexDigest

def CheckpointHistoryCursor.document (c : CheckpointHistoryCursor) : CursorDocument :=
  [("after", .str (checkpointId c.after)), ("case", .str c.casePublicId.text),
    ("cutoff", .str (checkpointId c.cutoff)), ("v", .int 1)]

structure BackfillOutcomeHistoryCursor where
  casePublicId : CanonicalUuid
  cutoff : CanonicalUuid
  after : CanonicalUuid

def BackfillOutcomeHistoryCursor.document (c : BackfillOutcomeHistoryCursor) : CursorDocument :=
  [("after", .str c.after.text), ("case", .str c.casePublicId.text),
    ("cutoff", .str c.cutoff.text), ("v", .int 1)]

/-- `_cursor_position`: the fields of an item that place it. -/
structure CursorPosition where
  occurredAt : Option Text
  logicalTime : Option Text
  publicId : Text
deriving DecidableEq

def textOrNull : Option Text → Json
  | some text => .str text
  | none => .null

def CursorPosition.document (p : CursorPosition) : CursorDocument :=
  [("logical_time", textOrNull p.logicalTime), ("occurred_at", textOrNull p.occurredAt),
    ("public_id", .str p.publicId)]

/-- A character that JSON writes as it is. -/
def isPlain (c : Char) : Bool := 32 ≤ c.toNat && c.toNat ≤ 126 && c ≠ '"' && c ≠ '\\'

/-- Timestamps, logical times and ids of items are plain and short. -/
structure CursorPosition.Bounded (p : CursorPosition) : Prop where
  occurredAt : ∀ text, p.occurredAt = some text → text.all isPlain = true ∧ text.length ≤ 27
  logicalTime : ∀ text, p.logicalTime = some text → text.all isPlain = true ∧ text.length ≤ 20
  publicId : p.publicId.all isPlain = true ∧ p.publicId.length ≤ 68

inductive ActivitySort where
  | newest
  | oldest
deriving DecidableEq, Repr

def ActivitySort.text : ActivitySort → Text
  | .newest => "newest".toList
  | .oldest => "oldest".toList

structure ActivityCursor where
  casePublicId : CanonicalUuid
  snapshotPublicId : CanonicalUuid
  filterSha256 : HexDigest
  sort : ActivitySort
  after : CursorPosition
  bounded : after.Bounded

def ActivityCursor.document (c : ActivityCursor) : CursorDocument :=
  [("after", .obj c.after.document), ("case", .str c.casePublicId.text),
    ("filter_sha256", .str c.filterSha256.text), ("snapshot", .str c.snapshotPublicId.text),
    ("sort", .str c.sort.text), ("v", .int 1)]

end TonTracker
