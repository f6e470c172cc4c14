import HeliumSync.Json

/-! The protocol types of `helium-sync-common` and the third-party code underneath. -/
namespace HeliumSync

abbrev Bytes := List UInt8

structure ObjectId where
  uuid : BitVec 128
  deriving DecidableEq, Repr

structure DeviceId where
  uuid : BitVec 128
  deriving DecidableEq, Repr

/-- An `OffsetDateTime` in UTC. -/
structure Timestamp where
  nanoseconds : Int
  deriving DecidableEq, Repr

/-- `char::is_whitespace` -/
def isWhitespace (c : Char) : Bool :=
  let n := c.toNat
  (9 ≤ n && n ≤ 13) || n == 32 || n == 0x85 || n == 0xA0 || n == 0x1680 ||
    (0x2000 ≤ n && n ≤ 0x200A) || n == 0x2028 || n == 0x2029 || n == 0x202F || n == 0x205F ||
    n == 0x3000

/-- `str::trim` -/
def trim (text : String) : String :=
  let front := text.toList.dropWhile isWhitespace
  String.ofList (front.reverse.dropWhile isWhitespace).reverse

/-- `PROTOCOL_MAX` -/
def protocolMax : Nat := 1

/-- A plaintext is kept as the value it was serialized from. -/
inductive Plaintext where
  | json (value : Json)
  | text (value : String)
  | binary (bytes : Bytes)
  deriving DecidableEq

def textBytes (text : String) : Bytes := text.toUTF8.toList

/-- The cryptography, formatting and parsing that the crates take from libraries. `C` is the
type of ciphertexts, of which the code only ever reads the length. -/
structure Primitives (C : Type) where
  hkdf : (salt ikm info : Bytes) → Bytes
  aeadEncrypt : (key nonce aad : Bytes) → Plaintext → Option C
  aeadDecrypt : (key nonce aad : Bytes) → C → Option Plaintext
  cipherLength : C → Nat
  /-- The longest message the cipher takes. -/
  longest : Nat
  /-- The digest in lower-case hexadecimal. -/
  sha256 : Bytes → String
  formatRfc3339 : Timestamp → Except String String
  parseRfc3339 : String → Except String Timestamp
  formatUuid : BitVec 128 → String
  parseUuid : String → Except String (BitVec 128)
  writeJson : Json → Bytes
  /-- `serde_json`'s parser, its recursion limit apart, on bytes that it did not write itself. -/
  parseForeign : Bytes → Except String Json

namespace Primitives
variable {C : Type} (P : Primitives C)

def plainBytes : Plaintext → Bytes
  | .json value => P.writeJson value
  | .text value => textBytes value
  | .binary bytes => bytes

/-- What the code relies on. -/
structure Lawful : Prop where
  decrypt_encrypt : ∀ {key nonce aad plain cipher},
    P.aeadEncrypt key nonce aad plain = some cipher →
      P.aeadDecrypt key nonce aad cipher = some plain
  encrypts : ∀ key nonce aad plain,
    (P.aeadEncrypt key nonce aad plain).isSome ↔ (P.plainBytes plain).length ≤ P.longest
  encrypted_length : ∀ {key nonce aad plain cipher},
    P.aeadEncrypt key nonce aad plain = some cipher →
      P.cipherLength cipher = (P.plainBytes plain).length + 16
  parse_format : ∀ {time text}, P.formatRfc3339 time = .ok text →
    ∃ parsed, P.parseRfc3339 text = .ok parsed ∧ P.formatRfc3339 parsed = .ok text
  short_format : ∀ {time text}, P.formatRfc3339 time = .ok text →
    (textBytes text).length < 4294967296
  parse_uuid : ∀ uuid, P.parseUuid (P.formatUuid uuid) = .ok uuid

/-- What `serde_json`'s parser reads, before anything is asked of it. -/
def parseText : Plaintext → Except String Json
  | .json value => .ok value
  | plain => P.parseForeign (P.plainBytes plain)

/-- `serde_json::from_slice::<Value>` -/
def parseJson (plaintext : Plaintext) : Except String Json :=
  (P.parseText plaintext).bind Json.asValue

@[simp] theorem parseText_json (value : Json) : P.parseText (.json value) = .ok value := rfl

end Primitives

structure EncryptedEnvelopeV1 (C : Type) where
  version : Nat
  algorithm : String
  keyVersion : Nat
  nonce : Bytes
  ciphertext : C
  deriving DecidableEq

structure SyncObject (C : Type) where
  id : ObjectId
  nameSpace : String
  revision : U64
  cursor : U64
  deviceId : DeviceId
  modifiedAt : Timestamp
  deleted : Bool
  envelope : Option (EncryptedEnvelopeV1 C)

structure PutObjectRequest (C : Type) where
  nameSpace : String
  baseRevision : Option U64
  deviceId : DeviceId
  modifiedAt : Timestamp
  envelope : EncryptedEnvelopeV1 C

structure DeleteObjectRequest where
  baseRevision : U64
  deviceId : DeviceId
  modifiedAt : Timestamp

inductive BatchOperation (C : Type) where
  | put (id : ObjectId) (request : PutObjectRequest C)
  | delete (id : ObjectId) (request : DeleteObjectRequest)

structure Change where
  cursor : U64
  objectId : ObjectId
  nameSpace : String
  revision : U64
  deviceId : DeviceId
  modifiedAt : Timestamp
  deleted : Bool
  deriving DecidableEq

structure ChangesResponse where
  changes : List Change
  nextCursor : U64
  hasMore : Bool
  deriving DecidableEq

structure Device where
  id : DeviceId
  name : String
  createdAt : Timestamp
  revokedAt : Option Timestamp
  deriving DecidableEq

structure RegisterDeviceRequest where
  id : DeviceId
  name : String
  deriving DecidableEq

/-- `ApiErrorBody` with its HTTP status. -/
structure ApiError where
  status : Nat
  code : String
  message : String
  currentRevision : Option U64
  currentCursor : Option U64
  deriving DecidableEq

end HeliumSync
