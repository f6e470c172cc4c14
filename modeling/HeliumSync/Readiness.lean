import HeliumSync.Requests

/-! When an upload or a save can succeed: nothing hangs on the time, nonce or id that is drawn. -/
namespace HeliumSync

theorem appendField_isOk (output : Bytes) {field : Bytes} :
    (∃ result, appendField output field = .ok result) ↔ field.length < 4294967296 := by
  unfold appendField
  split_ifs with fits <;> simp [fits]

section
variable {C : Type} {P : Primitives C} {masterKey : MasterKey}

theorem keyInfo_isOk {nameSpace : String} (keyVersion : Nat) :
    (∃ info, keyInfo nameSpace keyVersion = .ok info) ↔
      (textBytes nameSpace).length < 4294967296 := by
  rw [← appendField_isOk (textBytes "helium-sync/object-key/"), keyInfo]
  constructor
  · rintro ⟨info, found⟩
    obtain ⟨result, appended, _⟩ := Fallible.bind_ok_iff.mp found
    exact ⟨result, appended⟩
  · rintro ⟨result, appended⟩
    exact ⟨_, Fallible.bind_ok_iff.mpr ⟨result, appended, rfl⟩⟩

theorem associatedData_isOk (lawful : P.Lawful) {metadata : ObjectMetadata} (version : Nat) :
    (∃ aad, associatedData P metadata version = .ok aad) ↔
      (textBytes metadata.nameSpace).length < 4294967296 ∧
        ∃ text, P.formatRfc3339 metadata.modifiedAt = .ok text := by
  have size (uuid : BitVec 128) : (uuidBytes uuid).length = 16 := length_beBytes 16 uuid.toNat
  constructor
  · rintro ⟨aad, bound⟩
    refine ⟨?_, associatedData_format bound⟩
    obtain ⟨_, _, bound⟩ := Fallible.bind_ok_iff.mp bound
    obtain ⟨result, appended, _⟩ := Fallible.bind_ok_iff.mp bound
    exact (appendField_isOk _).mp ⟨result, appended⟩
  · rintro ⟨short, text, formatted⟩
    have time : (textBytes text).length < 4294967296 := lawful.short_format formatted
    simp [associatedData, size, appendField, short, formatted, time, Except.mapError, bind,
      Except.bind, pure, Except.pure]

theorem encrypt_isOk (lawful : P.Lawful) {metadata : ObjectMetadata} {plaintext : Plaintext}
    {nonce : Bytes} :
    (∃ envelope, encrypt P masterKey metadata plaintext nonce = .ok envelope) ↔
      (textBytes metadata.nameSpace).length < 4294967296 ∧
        (∃ text, P.formatRfc3339 metadata.modifiedAt = .ok text) ∧
        (P.plainBytes plaintext).length ≤ P.longest := by
  constructor
  · rintro ⟨envelope, sealed⟩
    obtain ⟨key, aad, ciphertext, _, bound, encrypted, _⟩ := encrypt_ok sealed
    obtain ⟨short, formatted⟩ := (associatedData_isOk lawful 1).mp ⟨aad, bound⟩
    exact ⟨short, formatted, (lawful.encrypts ..).mp (by rw [encrypted]; rfl)⟩
  · rintro ⟨short, formatted, sized⟩
    obtain ⟨info, derived⟩ := (keyInfo_isOk 1).mpr short
    obtain ⟨aad, bound⟩ := (associatedData_isOk lawful 1).mpr ⟨short, formatted⟩
    obtain ⟨ciphertext, encrypted⟩ := Option.isSome_iff_exists.mp ((lawful.encrypts
      (P.hkdf (uuidBytes metadata.objectId.uuid) masterKey.bytes info) nonce aad plaintext).mpr
        sized)
    simp [encrypt, deriveKey, derived, bound, encrypted, bind, Except.bind, pure, Except.pure]

/-- What sealing a local state takes. -/
def Sealable (P : Primitives C) (purpose : String) (plaintext : Plaintext) : Prop :=
  (textBytes purpose).length < 4294967296 ∧ (P.plainBytes plaintext).length ≤ P.longest

theorem encryptLocalState_isOk (lawful : P.Lawful) {purpose : String} {plaintext : Plaintext}
    {nonce : Bytes} :
    (∃ envelope, encryptLocalState P masterKey purpose plaintext nonce = .ok envelope) ↔
      Sealable P purpose plaintext := by
  constructor
  · rintro ⟨envelope, sealed⟩
    obtain ⟨key, aad, ciphertext, _, bound, encrypted, _⟩ := encryptLocalState_ok sealed
    exact ⟨(appendField_isOk _).mp ⟨aad, bound⟩, (lawful.encrypts ..).mp (by rw [encrypted]; rfl)⟩
  · rintro ⟨short, sized⟩
    obtain ⟨info, derived⟩ := (appendField_isOk
      (textBytes "helium-sync/local-state-key/v1")).mpr short
    obtain ⟨aad, bound⟩ := (appendField_isOk
      (textBytes "helium-sync/local-state-aad/v1")).mpr short
    obtain ⟨ciphertext, encrypted⟩ := Option.isSome_iff_exists.mp ((lawful.encrypts
      (P.hkdf (textBytes "helium-sync/local-state-salt/v1") masterKey.bytes info) nonce aad
        plaintext).mpr sized)
    simp [encryptLocalState, deriveLocalStateKey, localStateKeyInfo, localStateAad, derived, bound,
      encrypted, bind, Except.bind, pure, Except.pure]

/-- What a put takes, apart from its time. -/
structure Server.Puts (P : Primitives C) (server : Server C) (current : Option (ObjectRow C))
    (request : PutObjectRequest C) : Prop where
  valid : Server.validatePut P request = .ok ()
  active : server.ensureActiveDevice request.deviceId = .ok ()
  next : ∃ revision, Server.nextRevision current request.baseRevision = .ok revision ∧
    revision.val < 9223372036854775808
  room : server.sequence + 1 < 9223372036854775808

theorem Server.putObject_isOk {server : Server C} {id : ObjectId} {request : PutObjectRequest C} :
    (∃ result, server.putObject P id request = .ok result) ↔
      server.Puts P (server.objects id) request ∧
        ∃ text, P.formatRfc3339 request.modifiedAt = .ok text := by
  constructor
  · rintro ⟨result, accepted⟩
    obtain ⟨_, valid, accepted⟩ := Fallible.bind_ok_iff.mp accepted
    obtain ⟨_, active, accepted⟩ := Fallible.bind_ok_iff.mp accepted
    obtain ⟨newRevision, next, accepted⟩ := Fallible.bind_ok_iff.mp accepted
    obtain ⟨modifiedAt, formatted, accepted⟩ := Fallible.bind_ok_iff.mp accepted
    obtain ⟨revision, stored, accepted⟩ := Fallible.bind_ok_iff.mp accepted
    obtain ⟨cursor, issued, accepted⟩ := Fallible.bind_ok_iff.mp accepted
    have small : newRevision.val < 9223372036854775808 :=
      (i64FromU64_ok stored).symm ▸ revision.isLt
    have room := nextCursor_ok issued ▸ cursor.isLt
    exact ⟨⟨valid, active, ⟨newRevision, next, small⟩, room⟩, modifiedAt,
      timestampString_ok formatted⟩
  · rintro ⟨⟨valid, active, ⟨newRevision, next, small⟩, room⟩, text, formatted⟩
    simp [putObject, valid, active, next, timestampString, formatted, i64FromU64, small, nextCursor,
      room, bind, Except.bind, pure, Except.pure]

end

/-- What an upload takes, apart from a time that can be formatted. -/
structure ClientCore.Uploadable {C : Type} (P : Primitives C) (core : ClientCore)
    (nameSpace : String) (plaintext : Plaintext) (base : Option U64)
    (current : Option (ObjectRow C)) (server : Server C) : Prop where
  short : (textBytes nameSpace).length < 4294967296
  sized : (P.plainBytes plaintext).length ≤ P.longest
  space : ¬ (nameSpace.isEmpty ∨ 128 < nameSpace.utf8ByteSize)
  light : (P.plainBytes plaintext).length + 16 ≤ maxPayloadBytes
  active : server.ensureActiveDevice core.deviceId = .ok ()
  next : ∃ revision, Server.nextRevision current base = .ok revision ∧
    revision.val < 9223372036854775808
  room : server.sequence + 1 < 9223372036854775808

namespace ClientCore
variable {C : Type} {P : Primitives C} {core : ClientCore} {server : Server C} {nameSpace : String}
  {plaintext : Plaintext} {base : Option U64} {id : ObjectId} {s : Sample}
  {envelope : EncryptedEnvelopeV1 C}

theorem validatePut_request (lawful : P.Lawful)
    (sealed : encrypt P core.masterKey (core.metadata nameSpace base id s) plaintext s.nonce =
      .ok envelope) :
    Server.validatePut P (core.request nameSpace base s envelope) = .ok () ↔
      ¬ (nameSpace.isEmpty ∨ 128 < nameSpace.utf8ByteSize) ∧
        (P.plainBytes plaintext).length + 16 ≤ maxPayloadBytes := by
  obtain ⟨key, aad, ciphertext, _, _, encrypted, rfl⟩ := encrypt_ok sealed
  have length := lawful.encrypted_length encrypted
  simp only [Server.validatePut, request, length, envelopeAlgorithm, s.nonceSize]
  split_ifs <;> simp_all

/-- An upload that was accepted once can be made again. -/
theorem uploadable_of_put (lawful : P.Lawful)
    (sealed : encrypt P core.masterKey (core.metadata nameSpace base id s) plaintext s.nonce =
      .ok envelope)
    (accepted : ∃ result, server.putObject P id (core.request nameSpace base s envelope) =
      .ok result) :
    core.Uploadable P nameSpace plaintext base (server.objects id) server := by
  obtain ⟨puts, _⟩ := Server.putObject_isOk.mp accepted
  obtain ⟨short, _, sized⟩ := (encrypt_isOk lawful).mp ⟨envelope, sealed⟩
  obtain ⟨space, light⟩ := (validatePut_request lawful sealed).mp puts.valid
  exact ⟨short, sized, space, light, puts.active, puts.next, puts.room⟩

theorem Uploadable.seals (lawful : P.Lawful) {current : Option (ObjectRow C)}
    (uploadable : core.Uploadable P nameSpace plaintext base current server)
    (formatted : ∃ text, P.formatRfc3339 s.time = .ok text) :
    ∃ envelope, encrypt P core.masterKey (core.metadata nameSpace base id s) plaintext s.nonce =
      .ok envelope :=
  (encrypt_isOk lawful).mpr ⟨uploadable.short, formatted, uploadable.sized⟩

theorem Uploadable.puts (lawful : P.Lawful)
    (uploadable : core.Uploadable P nameSpace plaintext base (server.objects id) server)
    (formatted : ∃ text, P.formatRfc3339 s.time = .ok text)
    (sealed : encrypt P core.masterKey (core.metadata nameSpace base id s) plaintext s.nonce =
      .ok envelope) :
    ∃ result, server.putObject P id (core.request nameSpace base s envelope) = .ok result :=
  Server.putObject_isOk.mpr ⟨⟨(validatePut_request lawful sealed).mpr
    ⟨uploadable.space, uploadable.light⟩, uploadable.active, uploadable.next, uploadable.room⟩,
    formatted⟩

end ClientCore
end HeliumSync
