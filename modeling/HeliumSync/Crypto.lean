import HeliumSync.Bookmarks
import HeliumSync.Protocol

/-! `crypto.rs`: object envelopes and local-state envelopes over the primitives. -/
namespace HeliumSync

/-- The variants of `ClientError` that the modelled functions build or pass on. -/
inductive ClientError where
  | connect (details : String)
  | tls (details : String)
  | timeout
  | ssh (details : String)
  | remoteSocket (details : String)
  | apiAuthentication
  | api (status : Nat) (code message : String)
  | crypto (details : String)
  | state (details : String)
  | profile (error : ProfileError)
  | serialization (details : String)
  deriving DecidableEq, Repr

namespace ClientError

def message : ClientError → String
  | connect details => s!"DNS lookup or TCP connection failed: {details}"
  | tls details => s!"TLS certificate validation failed: {details}"
  | timeout => "HTTPS request timed out"
  | ssh details => s!"SSH connection failed: {details}"
  | remoteSocket details => s!"remote Unix socket is unavailable: {details}"
  | apiAuthentication =>
      "Helium Sync API token was rejected; enter the token configured on the server exactly"
  | api status code text => s!"server returned {status} {code}: {text}"
  | crypto details => s!"cryptographic operation failed: {details}"
  | state details => s!"local state failed: {details}"
  | profile error => s!"profile operation failed: {error.message}"
  | serialization details => s!"protocol serialization failed: {details}"

/-- What a request may end with when its reply does not arrive whole. -/
def fromTransport : ClientError → Bool
  | connect _ | tls _ | timeout | ssh _ | remoteSocket _ | apiAuthentication | serialization _ =>
      true
  | _ => false

end ClientError

structure MasterKey where
  bytes : Bytes
  size : bytes.length = 32

/-- `to_be_bytes` of an integer of `width` bytes. -/
def beBytes (width n : Nat) : Bytes :=
  (List.range width).map fun i => UInt8.ofNat (n / 256 ^ (width - 1 - i))

@[simp] theorem length_beBytes (width n : Nat) : (beBytes width n).length = width := by
  simp [beBytes]

/-- `as_bytes` of a UUID. -/
def uuidBytes (uuid : BitVec 128) : Bytes := beBytes 16 uuid.toNat

/-- `append_field` -/
def appendField (output field : Bytes) : Except ClientError Bytes :=
  if field.length < 4294967296 then .ok (output ++ beBytes 4 field.length ++ field)
  else .error (.crypto "authenticated metadata is too large")

structure ObjectMetadata where
  protocol : Nat
  objectId : ObjectId
  nameSpace : String
  deviceId : DeviceId
  revision : U64
  modifiedAt : Timestamp

/-- The key-derivation info of `derive_key`. -/
def keyInfo (nameSpace : String) (keyVersion : Nat) : Except ClientError Bytes := do
  let info ← appendField (textBytes "helium-sync/object-key/") (textBytes nameSpace)
  return info ++ beBytes 4 keyVersion

/-- The key-derivation info of `derive_local_state_key`. -/
def localStateKeyInfo (purpose : String) : Except ClientError Bytes :=
  appendField (textBytes "helium-sync/local-state-key/v1") (textBytes purpose)

/-- `local_state_aad` -/
def localStateAad (purpose : String) : Except ClientError Bytes :=
  appendField (textBytes "helium-sync/local-state-aad/v1") (textBytes purpose)

def localStateAlgorithm : String := "XCHACHA20-POLY1305-LOCAL-STATE"

section
variable {C : Type} (P : Primitives C)

/-- `derive_key` -/
def deriveKey (masterKey : MasterKey) (objectId : ObjectId) (nameSpace : String)
    (keyVersion : Nat) : Except ClientError Bytes := do
  return P.hkdf (uuidBytes objectId.uuid) masterKey.bytes (← keyInfo nameSpace keyVersion)

/-- `derive_local_state_key` -/
def deriveLocalStateKey (masterKey : MasterKey) (purpose : String) : Except ClientError Bytes := do
  return P.hkdf (textBytes "helium-sync/local-state-salt/v1") masterKey.bytes
    (← localStateKeyInfo purpose)

/-- `associated_data` -/
def associatedData (metadata : ObjectMetadata) (envelopeVersion : Nat) :
    Except ClientError Bytes := do
  let aad := textBytes "helium-sync/aad/v1" ++ beBytes 2 metadata.protocol
  let aad ← appendField aad (uuidBytes metadata.objectId.uuid)
  let aad ← appendField aad (textBytes metadata.nameSpace)
  let aad ← appendField aad (uuidBytes metadata.deviceId.uuid)
  let aad := aad ++ beBytes 8 metadata.revision.val
  let timestamp ← (P.formatRfc3339 metadata.modifiedAt).mapError .serialization
  let aad ← appendField aad (textBytes timestamp)
  return aad ++ beBytes 1 envelopeVersion

/-- `encrypt`, with the nonce it draws. -/
def encrypt (masterKey : MasterKey) (metadata : ObjectMetadata) (plaintext : Plaintext)
    (nonce : Bytes) : Except ClientError (EncryptedEnvelopeV1 C) := do
  let key ← deriveKey P masterKey metadata.objectId metadata.nameSpace 1
  let aad ← associatedData P metadata 1
  match P.aeadEncrypt key nonce aad plaintext with
  | some ciphertext =>
      return { version := 1, algorithm := "XCHACHA20-POLY1305", keyVersion := 1, nonce, ciphertext }
  | none => throw (.crypto "payload encryption failed")

/-- The message by which `is_undecryptable_candidate` knows a failed authentication. -/
def authenticationFailed : ClientError :=
  .crypto "ciphertext authentication failed; payload or metadata was changed"

/-- `decrypt` -/
def decrypt (masterKey : MasterKey) (object : SyncObject C) : Except ClientError Plaintext := do
  let some envelope := object.envelope
    | throw (.crypto "deleted object does not contain an encrypted payload")
  if envelope.version ≠ 1 ∨ envelope.keyVersion ≠ 1 ∨ envelope.algorithm ≠ "XCHACHA20-POLY1305" ∨
      envelope.nonce.length ≠ 24 then
    throw (.crypto "encrypted envelope algorithm or version is unsupported")
  let metadata : ObjectMetadata := {
    protocol := protocolMax
    objectId := object.id
    nameSpace := object.nameSpace
    deviceId := object.deviceId
    revision := object.revision
    modifiedAt := object.modifiedAt }
  let key ← deriveKey P masterKey object.id object.nameSpace envelope.keyVersion
  let aad ← associatedData P metadata envelope.version
  match P.aeadDecrypt key envelope.nonce aad envelope.ciphertext with
  | some plaintext => return plaintext
  | none => throw authenticationFailed

/-- `encrypt_local_state`, with the nonce it draws. -/
def encryptLocalState (masterKey : MasterKey) (purpose : String) (plaintext : Plaintext)
    (nonce : Bytes) : Except ClientError (EncryptedEnvelopeV1 C) := do
  let key ← deriveLocalStateKey P masterKey purpose
  let aad ← localStateAad purpose
  match P.aeadEncrypt key nonce aad plaintext with
  | some ciphertext =>
      return { version := 1, algorithm := localStateAlgorithm, keyVersion := 1, nonce, ciphertext }
  | none => throw (.crypto "local state encryption failed")

/-- `decrypt_local_state` -/
def decryptLocalState (masterKey : MasterKey) (purpose : String)
    (envelope : EncryptedEnvelopeV1 C) : Except ClientError Plaintext := do
  if envelope.version ≠ 1 ∨ envelope.keyVersion ≠ 1 ∨ envelope.algorithm ≠ localStateAlgorithm ∨
      envelope.nonce.length ≠ 24 then
    throw (.crypto "local state envelope algorithm or version is unsupported")
  let key ← deriveLocalStateKey P masterKey purpose
  let aad ← localStateAad purpose
  match P.aeadDecrypt key envelope.nonce aad envelope.ciphertext with
  | some plaintext => return plaintext
  | none => throw (.crypto "local state authentication failed; data or context changed")

end

section
variable {C : Type} {P : Primitives C} {masterKey : MasterKey}

theorem encrypt_ok {metadata : ObjectMetadata} {plaintext : Plaintext} {nonce : Bytes}
    {envelope : EncryptedEnvelopeV1 C}
    (sealed : encrypt P masterKey metadata plaintext nonce = .ok envelope) :
    ∃ key aad ciphertext, deriveKey P masterKey metadata.objectId metadata.nameSpace 1 = .ok key ∧
      associatedData P metadata 1 = .ok aad ∧
      P.aeadEncrypt key nonce aad plaintext = some ciphertext ∧
      envelope = ⟨1, "XCHACHA20-POLY1305", 1, nonce, ciphertext⟩ := by
  obtain ⟨key, derived, sealed⟩ := Fallible.bind_ok_iff.mp sealed
  obtain ⟨aad, bound, sealed⟩ := Fallible.bind_ok_iff.mp sealed
  split at sealed
  · next ciphertext found =>
      cases sealed
      exact ⟨key, aad, ciphertext, derived, bound, found, rfl⟩
  · cases sealed

theorem associatedData_format {metadata : ObjectMetadata} {version : Nat} {aad : Bytes}
    (bound : associatedData P metadata version = .ok aad) :
    ∃ text, P.formatRfc3339 metadata.modifiedAt = .ok text := by
  obtain ⟨_, _, bound⟩ := Fallible.bind_ok_iff.mp bound
  obtain ⟨_, _, bound⟩ := Fallible.bind_ok_iff.mp bound
  obtain ⟨_, _, bound⟩ := Fallible.bind_ok_iff.mp bound
  obtain ⟨text, formatted, _⟩ := Fallible.bind_ok_iff.mp bound
  cases found : P.formatRfc3339 metadata.modifiedAt with
  | ok text => exact ⟨text, rfl⟩
  | error e => rw [found] at formatted; cases formatted

/-- Only the text of the time is authenticated. -/
theorem associatedData_congr {metadata : ObjectMetadata} {time : Timestamp} (version : Nat)
    (same : P.formatRfc3339 time = P.formatRfc3339 metadata.modifiedAt) :
    associatedData P { metadata with modifiedAt := time } version =
      associatedData P metadata version := by
  simp only [associatedData, same]

/-- What was encrypted for an object is what its holder decrypts. -/
theorem decrypt_encrypt (lawful : P.Lawful) {metadata : ObjectMetadata} {plaintext : Plaintext}
    {nonce : Bytes} {envelope : EncryptedEnvelopeV1 C} (size : nonce.length = 24)
    (current : metadata.protocol = protocolMax)
    (sealed : encrypt P masterKey metadata plaintext nonce = .ok envelope) {object : SyncObject C}
    (id : object.id = metadata.objectId) (space : object.nameSpace = metadata.nameSpace)
    (device : object.deviceId = metadata.deviceId) (revision : object.revision = metadata.revision)
    (time : P.formatRfc3339 object.modifiedAt = P.formatRfc3339 metadata.modifiedAt)
    (held : object.envelope = some envelope) : decrypt P masterKey object = .ok plaintext := by
  obtain ⟨key, aad, ciphertext, derived, bound, encrypted, rfl⟩ := encrypt_ok sealed
  have opened := lawful.decrypt_encrypt encrypted
  rw [← associatedData_congr 1 time] at bound
  rw [decrypt, held, id, space, device, revision, ← current]
  simp [size, derived, bound, opened, bind, Except.bind, pure, Except.pure]

theorem encryptLocalState_ok {purpose : String} {plaintext : Plaintext} {nonce : Bytes}
    {envelope : EncryptedEnvelopeV1 C}
    (sealed : encryptLocalState P masterKey purpose plaintext nonce = .ok envelope) :
    ∃ key aad ciphertext, deriveLocalStateKey P masterKey purpose = .ok key ∧
      localStateAad purpose = .ok aad ∧ P.aeadEncrypt key nonce aad plaintext = some ciphertext ∧
      envelope = ⟨1, localStateAlgorithm, 1, nonce, ciphertext⟩ := by
  obtain ⟨key, derived, sealed⟩ := Fallible.bind_ok_iff.mp sealed
  obtain ⟨aad, bound, sealed⟩ := Fallible.bind_ok_iff.mp sealed
  split at sealed
  · next ciphertext found =>
      cases sealed
      exact ⟨key, aad, ciphertext, derived, bound, found, rfl⟩
  · cases sealed

theorem decryptLocalState_encryptLocalState (lawful : P.Lawful) {purpose : String}
    {plaintext : Plaintext} {nonce : Bytes} {envelope : EncryptedEnvelopeV1 C}
    (size : nonce.length = 24)
    (sealed : encryptLocalState P masterKey purpose plaintext nonce = .ok envelope) :
    decryptLocalState P masterKey purpose envelope = .ok plaintext := by
  obtain ⟨key, aad, ciphertext, derived, bound, encrypted, rfl⟩ := encryptLocalState_ok sealed
  have opened := lawful.decrypt_encrypt encrypted
  simp [decryptLocalState, size, derived, bound, opened, bind, Except.bind, pure, Except.pure]

end
end HeliumSync
